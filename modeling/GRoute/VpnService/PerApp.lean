import GRoute.ConfigStore.Preferences

/-!
# Per-app capture

`applyPerApp`, on the builder of an interface. A package that is not installed is refused by the
builder, and the service passes over the exception. An interface for which no package was allowed
captures all apps but the disallowed ones, so an allow list of which nothing is installed captures
everything, the app itself included.
-/

namespace GRoute.VpnService

open Text

/-- `VpnService.Builder`, as far as it is about apps. -/
structure Builder where
  allowed : List Text := []
  disallowed : List Text := []
  deriving DecidableEq, Repr

namespace Builder

variable (installed : List Text) (builder : Builder) (pkg : Text)

/-- With `none` for the exception. -/
def addAllowedApplication : Option Builder :=
  if pkg ∈ installed then some { builder with allowed := builder.allowed ++ [pkg] } else none

def addDisallowedApplication : Option Builder :=
  if pkg ∈ installed then some { builder with disallowed := builder.disallowed ++ [pkg] } else none

/-- `list.forEach { runCatching { add(it) } }`. -/
def addEach (add : Builder → Text → Option Builder) (list : List Text) (builder : Builder) :
    Builder :=
  list.foldl (fun builder pkg => (add builder pkg).getD builder) builder

/-- The interface takes the traffic of the app. -/
def Captures : Prop :=
  if builder.allowed = [] then pkg ∉ builder.disallowed else pkg ∈ builder.allowed

end Builder

/-- `own` is the package of the app. -/
def applyPerApp (installed : List Text) (own : Text) (mode : PerAppMode) (list : List Text)
    (builder : Builder) : Builder :=
  match mode with
  | .allowlist =>
      if list = [] then builder.addEach (Builder.addDisallowedApplication installed) [own]
      else builder.addEach (Builder.addAllowedApplication installed) list
  | .blocklist => builder.addEach (Builder.addDisallowedApplication installed) (list ++ [own])
  | .off => builder.addEach (Builder.addDisallowedApplication installed) [own]

namespace Builder

variable {installed : List Text} {builder : Builder} {list : List Text} {pkg : Text}

theorem addEach_allowed : addEach (addAllowedApplication installed) list builder =
    { builder with allowed := builder.allowed ++ list.filter (· ∈ installed) } := by
  induction list generalizing builder with
  | nil => simp [addEach]
  | cons pkg rest ih =>
      simp only [addEach] at ih ⊢
      rw [List.foldl_cons, ih, addAllowedApplication]
      by_cases isInstalled : pkg ∈ installed
      · simp [isInstalled]
      · simp [isInstalled]

theorem addEach_disallowed : addEach (addDisallowedApplication installed) list builder =
    { builder with disallowed := builder.disallowed ++ list.filter (· ∈ installed) } := by
  induction list generalizing builder with
  | nil => simp [addEach]
  | cons pkg rest ih =>
      simp only [addEach] at ih ⊢
      rw [List.foldl_cons, ih, addDisallowedApplication]
      by_cases isInstalled : pkg ∈ installed
      · simp [isInstalled]
      · simp [isInstalled]

/-- Disallowed packages are not captured, if they are installed at all. -/
theorem captures_disallowed_iff :
    Captures (addEach (addDisallowedApplication installed) list {}) pkg ↔
      ¬ (pkg ∈ list ∧ pkg ∈ installed) := by
  rw [addEach_disallowed, Captures, if_pos rfl, List.nil_append, List.mem_filter]
  simp only [decide_eq_true_eq]

/-- With an allow list of which nothing is installed, everything is captured. -/
theorem captures_allowed_iff :
    Captures (addEach (addAllowedApplication installed) list {}) pkg ↔
      (∀ other ∈ list, other ∉ installed) ∨ pkg ∈ list ∧ pkg ∈ installed := by
  rw [addEach_allowed, Captures, List.nil_append]
  by_cases absent : ∀ other ∈ list, other ∉ installed
  · have empty : list.filter (· ∈ installed) = [] := by
      rw [List.filter_eq_nil_iff]
      simpa using absent
    rw [if_pos empty]
    exact iff_of_true List.not_mem_nil (.inl absent)
  · have nonempty : list.filter (· ∈ installed) ≠ [] := by
      rw [ne_eq, List.filter_eq_nil_iff]
      simpa using absent
    rw [if_neg nonempty, List.mem_filter, decide_eq_true_eq, or_iff_right absent]

end Builder

section Chosen

variable (installed : List Text) (own : Text) (mode : PerAppMode) (list : List Text)

/-- The interface that is established takes the traffic of the app. -/
def Captured (app : Text) : Prop :=
  (applyPerApp installed own mode list {}).Captures app

structure AsChosen : Prop where
  allowlist (isMode : mode = .allowlist) (nonempty : list ≠ []) (app : Text)
    (isInstalled : app ∈ installed) (captured : Captured installed own mode list app) : app ∈ list
  blocklist (isMode : mode = .blocklist) (app : Text) (isInstalled : app ∈ installed)
    (listed : app ∈ list) : ¬ Captured installed own mode list app
  own (captured : Captured installed own mode list own) : mode = .allowlist ∧ own ∈ list

/-- An allow list that is not empty has an app that is installed. -/
def Effective : Prop :=
  mode = .allowlist → list ≠ [] → ∃ pkg ∈ list, pkg ∈ installed

end Chosen

variable {installed : List Text} {own : Text} {mode : PerAppMode} {list : List Text}

theorem captured_blocklist_iff {app : Text} : Captured installed own .blocklist list app ↔
    ¬ (app ∈ list ++ [own] ∧ app ∈ installed) := Builder.captures_disallowed_iff

theorem captured_off_iff {app : Text} : Captured installed own .off list app ↔
    ¬ (app ∈ [own] ∧ app ∈ installed) := Builder.captures_disallowed_iff

theorem captured_allowlist_nil_iff {app : Text} : Captured installed own .allowlist [] app ↔
    ¬ (app ∈ [own] ∧ app ∈ installed) := Builder.captures_disallowed_iff

theorem captured_allowlist_iff (nonempty : list ≠ []) {app : Text} :
    Captured installed own .allowlist list app ↔
      (∀ other ∈ list, other ∉ installed) ∨ app ∈ list ∧ app ∈ installed := by
  rw [Captured, applyPerApp, if_neg nonempty]
  exact Builder.captures_allowed_iff

theorem effective_of_asChosen (isInstalled : own ∈ installed)
    (chosen : AsChosen installed own mode list) : Effective installed mode list := by
  rintro rfl nonempty
  by_contra none
  push Not at none
  have captured : Captured installed own .allowlist list own :=
    (captured_allowlist_iff nonempty).mpr (.inl none)
  exact none own (chosen.own captured).2 isInstalled

theorem asChosen_iff (isInstalled : own ∈ installed) :
    AsChosen installed own mode list ↔ Effective installed mode list := by
  refine ⟨effective_of_asChosen isInstalled, ?_⟩
  intro effective
  cases mode with
  | off =>
      refine ⟨fun isMode => (nomatch isMode), fun isMode => (nomatch isMode), ?_⟩
      intro captured
      exact absurd ⟨List.mem_singleton_self own, isInstalled⟩ (captured_off_iff.mp captured)
  | blocklist =>
      refine ⟨fun isMode => (nomatch isMode), ?_, ?_⟩
      · intro _ app isInstalled listed captured
        exact captured_blocklist_iff.mp captured ⟨List.mem_append_left _ listed, isInstalled⟩
      · intro captured
        have listed : own ∈ list ++ [own] := List.mem_append_right _ (List.mem_singleton_self own)
        exact absurd ⟨listed, isInstalled⟩ (captured_blocklist_iff.mp captured)
  | allowlist =>
      by_cases empty : list = []
      · subst empty
        refine ⟨fun _ nonempty => absurd rfl nonempty, fun isMode => (nomatch isMode), ?_⟩
        intro captured
        exact absurd ⟨List.mem_singleton_self own, isInstalled⟩
          (captured_allowlist_nil_iff.mp captured)
      · rcases effective rfl empty with ⟨pkg, listed, pkgInstalled⟩
        -- an allowed package is there, so nothing is captured by default
        have listedOf {app : Text} (captured : Captured installed own .allowlist list app) :
            app ∈ list := by
          rcases (captured_allowlist_iff empty).mp captured with none | ⟨isListed, -⟩
          · exact absurd pkgInstalled (none pkg listed)
          · exact isListed
        exact ⟨fun _ _ _ _ => listedOf, fun isMode => (nomatch isMode),
          fun captured => ⟨rfl, listedOf captured⟩⟩

theorem asChosen_installed :
    AsChosen [txt "net.gozar.app", txt "org.example"] (txt "net.gozar.app") .allowlist
      [txt "org.example"] := by
  have isInstalled : txt "net.gozar.app" ∈ [txt "net.gozar.app", txt "org.example"] :=
    List.mem_cons_self
  refine (asChosen_iff isInstalled).mpr ?_
  intro _ _
  exact ⟨txt "org.example", List.mem_cons_self, List.mem_cons_of_mem _ List.mem_cons_self⟩

/-- The one app of the allow list was removed from the device. -/
theorem not_asChosen_removed :
    ¬ AsChosen [txt "net.gozar.app"] (txt "net.gozar.app") .allowlist [txt "org.example"] := by
  intro chosen
  rcases effective_of_asChosen List.mem_cons_self chosen rfl (by decide) with
    ⟨pkg, listed, isInstalled⟩
  rw [List.mem_singleton] at listed isInstalled
  rw [listed] at isInstalled
  revert isInstalled
  decide

end GRoute.VpnService
