import GRoute.Foundation.CaseMapping

/-!
# Replacing a token

`String.replace`: a text is read from left to right, and each occurrence of a token gives way to a
marker. What is compared is a fold of the units, so that letter case can be ignored. A marker
starts and ends with a bracket and has a word between. Text without brackets that is left of the
result, and is not a part of the word, is text of the source in which the token does not occur.
-/

namespace GRoute.Replacing

variable {α β γ : Type*}

/-- The token occurs in the text, up to the view. -/
def Occurs (view : α → γ) (token s : List α) : Prop := token.map view <:+: s.map view

theorem occurs_self (view : α → γ) (s : List α) : Occurs view s s := List.infix_rfl

theorem prefix_of_prefix_append_cons {c : γ} {token rest : List γ} (front : List γ)
    (absent : c ∉ token) (starts : token <+: front ++ c :: rest) : token <+: front := by
  induction front generalizing token with
  | nil =>
      rcases List.prefix_cons_iff.mp starts with rfl | ⟨later, rfl, -⟩
      · exact List.nil_prefix
      · exact absurd List.mem_cons_self absent
  | cons first front ih =>
      rcases List.prefix_cons_iff.mp starts with rfl | ⟨later, rfl, startsLater⟩
      · exact List.nil_prefix
      · exact List.prefix_cons_iff.mpr
          (.inr ⟨later, rfl, ih (fun mem => absent (List.mem_cons_of_mem _ mem)) startsLater⟩)

/-- A token without the separator is on one side of it. -/
theorem infix_of_infix_append_cons {c : γ} {token front rest : List γ} (absent : c ∉ token)
    (occurs : token <:+: front ++ c :: rest) : token <:+: front ∨ token <:+: rest := by
  induction front with
  | nil =>
      rcases List.infix_cons_iff.mp occurs with starts | later
      · exact .inl (prefix_of_prefix_append_cons [] absent starts).isInfix
      · exact .inr later
  | cons first front ih =>
      rcases List.infix_cons_iff.mp occurs with starts | later
      · exact .inl (prefix_of_prefix_append_cons (first :: front) absent starts).isInfix
      · rcases ih later with inFront | inRest
        · exact .inl (List.infix_cons inFront)
        · exact .inr inRest

/-- What takes the place of a token: a word in brackets. -/
structure Marker (α : Type*) where
  opening : α
  word : List α
  closing : α

namespace Marker

def text (marker : Marker α) : List α := marker.opening :: (marker.word ++ [marker.closing])

/-- The text has no bracket and is not a part of the word. -/
structure Foreign (marker : Marker α) (view : α → γ) (s : List α) : Prop where
  opening : view marker.opening ∉ s.map view
  closing : view marker.closing ∉ s.map view
  word : ¬ Occurs view s marker.word

theorem Foreign.of_infix_text {marker : Marker α} {view : α → γ} {s rest : List α}
    (foreign : marker.Foreign view s) (occurs : Occurs view s (marker.text ++ rest)) :
    Occurs view s rest := by
  have unfolded : (marker.text ++ rest).map view =
      [] ++ view marker.opening ::
        (marker.word.map view ++ view marker.closing :: rest.map view) := by
    simp [text]
  rw [Occurs, unfolded] at occurs
  rcases infix_of_infix_append_cons foreign.opening occurs with isEmpty | afterOpening
  · exact absurd (isEmpty.trans (List.nil_infix)) foreign.word
  · rcases infix_of_infix_append_cons foreign.closing afterOpening with inWord | afterClosing
    · exact absurd inWord foreign.word
    · exact afterClosing

end Marker

section Replace

variable [DecidableEq β] (fold : α → β) (token replacement : List α)

/-- What is left of an occurrence is skipped. -/
def replaceFrom : ℕ → List α → List α
  | _, [] => []
  | skip + 1, _ :: rest => replaceFrom skip rest
  | 0, c :: rest =>
      if token.map fold <+: (c :: rest).map fold then
        replacement ++ replaceFrom (token.length - 1) rest
      else c :: replaceFrom 0 rest

/-- `replace`. The empty token occurs before, between and after all units. -/
def replace (s : List α) : List α :=
  if token = [] then s.flatMap (fun c => replacement ++ [c]) ++ replacement
  else replaceFrom fold token replacement 0 s

variable {fold token replacement}

theorem replaceFrom_of_not_occurs {s : List α} (absent : ¬ Occurs fold token s) :
    replaceFrom fold token replacement 0 s = s := by
  induction s with
  | nil => rfl
  | cons c rest ih =>
      rw [replaceFrom, if_neg fun starts => absent starts.isInfix, ih]
      exact fun inRest => absent (List.infix_cons inRest)

theorem replace_of_not_occurs (nonempty : token ≠ []) {s : List α}
    (absent : ¬ Occurs fold token s) : replace fold token replacement s = s := by
  rw [replace, if_neg nonempty, replaceFrom_of_not_occurs absent]

variable {marker : Marker α} {view : α → γ} {x s : List α}
  (finer : ∀ {a b : α}, view a = view b → fold a = fold b)

include finer

omit [DecidableEq β] in
theorem map_prefix_of_finer {first second : List α} (starts : first.map view <+: second.map view) :
    first.map fold <+: second.map fold := by
  induction first generalizing second with
  | nil => exact List.nil_prefix
  | cons a first ih =>
      cases second with
      | nil => simp at starts
      | cons b second =>
          simp only [List.map_cons, List.cons_prefix_cons] at starts ⊢
          exact ⟨finer starts.1, ih starts.2⟩

/-- What the result starts with, up to a marker, is copied from the source. -/
theorem prefix_of_prefix_replaceFrom (nonempty : token ≠ [])
    (noOpening : view marker.opening ∉ x.map view)
    (starts : x.map view <+: (replaceFrom fold token marker.text 0 s).map view) :
    x.map view <+: s.map view ∧ ¬ Occurs fold token x := by
  have emptyLacks : ¬ Occurs fold token [] := fun occurs =>
    nonempty (List.map_eq_nil_iff.mp (List.infix_nil.mp occurs))
  induction s generalizing x with
  | nil =>
      have isEmpty : x = [] := List.map_eq_nil_iff.mp (List.prefix_nil.mp starts)
      rw [isEmpty]
      exact ⟨List.nil_prefix, emptyLacks⟩
  | cons c rest ih =>
      cases x with
      | nil => exact ⟨List.nil_prefix, emptyLacks⟩
      | cons a later =>
          rw [replaceFrom] at starts
          split_ifs at starts with matched
          · -- the result starts with the opening bracket here
            rw [Marker.text, List.cons_append, List.map_cons, List.map_cons,
              List.cons_prefix_cons] at starts
            rw [List.map_cons, starts.1] at noOpening
            exact absurd List.mem_cons_self noOpening
          · rw [List.map_cons, List.map_cons, List.cons_prefix_cons] at starts
            have noLater : view marker.opening ∉ later.map view := fun mem =>
              noOpening (List.mem_cons_of_mem _ mem)
            rcases ih noLater starts.2 with ⟨startsRest, laterLacks⟩
            have startsSource : (a :: later).map view <+: (c :: rest).map view :=
              List.cons_prefix_cons.mpr ⟨starts.1, startsRest⟩
            refine ⟨startsSource, ?_⟩
            intro occurs
            rcases List.infix_cons_iff.mp occurs with atStart | inLater
            · exact matched (atStart.trans (map_prefix_of_finer finer startsSource))
            · exact laterLacks inLater

theorem occurs_of_occurs_replaceFrom (nonempty : token ≠ []) (foreign : marker.Foreign view x)
    {skip : ℕ} (occurs : Occurs view x (replaceFrom fold token marker.text skip s)) :
    Occurs view x s ∧ ¬ Occurs fold token x := by
  induction s generalizing skip with
  | nil =>
      rw [replaceFrom] at occurs
      exact absurd (occurs.trans List.nil_infix) foreign.word
  | cons c rest ih =>
      have inSource (found : Occurs view x rest ∧ ¬ Occurs fold token x) :
          Occurs view x (c :: rest) ∧ ¬ Occurs fold token x :=
        ⟨List.infix_cons found.1, found.2⟩
      cases skip with
      | succ skip =>
          rw [replaceFrom] at occurs
          exact inSource (ih occurs)
      | zero =>
          by_cases matched : token.map fold <+: (c :: rest).map fold
          · rw [replaceFrom, if_pos matched] at occurs
            exact inSource (ih (foreign.of_infix_text occurs))
          · have copies : replaceFrom fold token marker.text 0 (c :: rest) =
                c :: replaceFrom fold token marker.text 0 rest := by
              rw [replaceFrom, if_neg matched]
            rw [copies, Occurs, List.map_cons] at occurs
            rcases List.infix_cons_iff.mp occurs with atStart | inRest
            · rw [← List.map_cons, ← copies] at atStart
              rcases prefix_of_prefix_replaceFrom finer nonempty foreign.opening atStart with
                ⟨startsSource, lacks⟩
              exact ⟨startsSource.isInfix, lacks⟩
            · exact inSource (ih inRest)

/-- What occurs in the result occurs in the source, and the token does not occur in it. -/
theorem occurs_of_occurs_replace (nonempty : token ≠ []) (foreign : marker.Foreign view x)
    (occurs : Occurs view x (replace fold token marker.text s)) :
    Occurs view x s ∧ ¬ Occurs fold token x := by
  rw [replace, if_neg nonempty] at occurs
  exact occurs_of_occurs_replaceFrom finer nonempty foreign occurs

/-- The same after one token after the other is replaced. -/
theorem occurs_of_occurs_foldl {tokens : List (List α)} (nonempty : ∀ token ∈ tokens, token ≠ [])
    (foreign : marker.Foreign view x)
    (occurs : Occurs view x
      (tokens.foldl (fun out token => replace fold token marker.text out) s)) :
    Occurs view x s ∧ ∀ token ∈ tokens, ¬ Occurs fold token x := by
  induction tokens generalizing s with
  | nil => exact ⟨occurs, List.forall_mem_nil _⟩
  | cons token tokens ih =>
      rw [List.forall_mem_cons] at nonempty ⊢
      rcases ih nonempty.2 occurs with ⟨occursNow, lacksLater⟩
      rcases occurs_of_occurs_replace finer nonempty.1 foreign occursNow with ⟨occursBefore, lacks⟩
      exact ⟨occursBefore, lacks, lacksLater⟩

omit finer in
theorem foldl_replace_of_not_occurs {tokens : List (List α)}
    (nonempty : ∀ token ∈ tokens, token ≠ []) (absent : ∀ token ∈ tokens, ¬ Occurs fold token s) :
    tokens.foldl (fun out token => replace fold token replacement out) s = s := by
  induction tokens with
  | nil => rfl
  | cons token tokens ih =>
      rw [List.forall_mem_cons] at nonempty absent
      rw [List.foldl_cons, replace_of_not_occurs nonempty.1 absent.1]
      exact ih nonempty.2 absent.2

end Replace

end GRoute.Replacing

namespace GRoute.Text

/-- How `regionMatches` compares units when it ignores case: by `toLowerCase(toUpperCase(c))`. -/
structure UnitCase where
  fold : UInt16 → UInt16
  /-- Only itself folds like an ASCII unit that is not a letter. -/
  eq_of_fold_eq {c symbol : UInt16} (isAscii : symbol.toNat < 0x80)
    (notLetter : asciiLower symbol = symbol ∧ ¬ (unit 'a' ≤ symbol ∧ symbol ≤ unit 'z'))
    (same : fold c = fold symbol) : c = symbol

/-- A unit that is no letter has no other unit of its lower case. -/
theorem eq_of_asciiLower_eq {c symbol : UInt16}
    (notLetter : asciiLower symbol = symbol ∧ ¬ (unit 'a' ≤ symbol ∧ symbol ≤ unit 'z'))
    (same : asciiLower c = asciiLower symbol) : c = symbol := by
  rw [notLetter.1] at same
  by_cases upper : unit 'A' ≤ c ∧ c ≤ unit 'Z'
  · exfalso
    apply notLetter.2
    have range : 65 ≤ c.toNat ∧ c.toNat ≤ 90 := upper
    have value : symbol.toNat = c.toNat + 32 := by
      rw [← same, asciiLower, if_pos upper, UInt16.toNat_add]
      change (c.toNat + 32) % 65536 = c.toNat + 32
      omega
    change 97 ≤ symbol.toNat ∧ symbol.toNat ≤ 122
    omega
  · rw [asciiLower, if_neg upper] at same
    exact same

/-- The fold that changes the case of ASCII letters only. -/
def UnitCase.ascii : UnitCase where
  fold := asciiLower
  eq_of_fold_eq _ := eq_of_asciiLower_eq

end GRoute.Text
