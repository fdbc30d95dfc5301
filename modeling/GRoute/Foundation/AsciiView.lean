import GRoute.Foundation.Resetting
import GRoute.Foundation.Utf8

/-!
# The ASCII units of a decoded stream

Wherever a stream of bytes is cut before it is decoded, the ASCII bytes decode to themselves, and
what lies between two of them decodes to units that are not ASCII. So an ASCII text occurs in the
decoded text whether the bytes are decoded at once or piece by piece.
-/

namespace GRoute.Text

open Resetting

variable {β : Type*}

/-- The same entries in the same order, with gaps of any length at the same places. -/
inductive Alike : List (Option β) → List (Option β) → Prop
  | nil : Alike [] []
  | entry (c : β) {s t : List (Option β)} (alike : Alike s t) : Alike (some c :: s) (some c :: t)
  | gap {m n : ℕ} (left : 0 < m) (right : 0 < n) {s t : List (Option β)} (alike : Alike s t) :
      Alike (List.replicate m none ++ s) (List.replicate n none ++ t)

theorem Alike.append {s t u v : List (Option β)} (first : Alike s t) (second : Alike u v) :
    Alike (s ++ u) (t ++ v) := by
  induction first with
  | nil => exact second
  | entry c _ ih => exact ih.entry c
  | gap left right _ ih =>
      rw [List.append_assoc, List.append_assoc]
      exact ih.gap left right

theorem Alike.refl (s : List (Option β)) : Alike s s := by
  induction s with
  | nil => exact .nil
  | cons c s ih =>
      cases c with
      | some c => exact ih.entry c
      | none => exact ih.gap (m := 1) (n := 1) Nat.one_pos Nat.one_pos

theorem Alike.symm {s t : List (Option β)} (alike : Alike s t) : Alike t s := by
  induction alike with
  | nil => exact .nil
  | entry c _ ih => exact ih.entry c
  | gap left right _ ih => exact ih.gap right left

/-- A gap on the right may be longer. -/
theorem Alike.widen {s t : List (Option β)} (alike : Alike s (none :: t)) :
    Alike s (none :: none :: t) := by
  generalize whole : none :: t = u at alike
  cases alike with
  | nil => cases whole
  | entry c _ => cases whole
  | @gap m n left right s t alike => exact alike.gap left (n := n + 1) n.succ_pos

theorem Alike.prefix_of_prefix {s t : List (Option β)} (alike : Alike s t) {token : List β}
    (starts : token.map some <+: s) : token.map some <+: t := by
  induction alike generalizing token with
  | nil => exact starts
  | entry c _ ih =>
      cases token with
      | nil => exact List.nil_prefix
      | cons d rest =>
          rw [List.map_cons, List.cons_prefix_cons] at starts ⊢
          exact ⟨starts.1, ih starts.2⟩
  | gap left _ _ _ =>
      cases token with
      | nil => exact List.nil_prefix
      | cons d rest =>
          rw [← Nat.sub_add_cancel left, List.replicate_succ, List.cons_append, List.map_cons,
            List.cons_prefix_cons] at starts
          cases starts.1

theorem Alike.prefix_iff {s t : List (Option β)} (alike : Alike s t) (token : List β) :
    token.map some <+: s ↔ token.map some <+: t :=
  ⟨alike.prefix_of_prefix, alike.symm.prefix_of_prefix⟩

/-- What follows the same entries is alike. -/
theorem Alike.drop {token : List β} {s t : List (Option β)}
    (alike : Alike (token.map some ++ s) (token.map some ++ t)) : Alike s t := by
  induction token with
  | nil => exact alike
  | cons c token ih =>
      generalize left : (c :: token).map some ++ s = u at alike
      generalize right : (c :: token).map some ++ t = v at alike
      cases alike with
      | nil => cases left
      | entry d alike =>
          cases left
          cases right
          exact ih alike
      | @gap m n positive _ _ _ _ =>
          rw [← Nat.sub_add_cancel positive, List.replicate_succ] at left
          cases left

theorem Alike.count_eq [DecidableEq β] {s t : List (Option β)} (alike : Alike s t) (c : β) :
    s.count (some c) = t.count (some c) := by
  induction alike with
  | nil => rfl
  | entry d _ ih => rw [List.count_cons, List.count_cons, ih]
  | gap _ _ _ ih => simp [List.count_append, List.count_replicate, ih]

section Resets

variable [DecidableEq β] (r : Resets β)

/-- The same sequences among entries with gaps. -/
def entries : Resets (Option β) where
  opening := some r.opening
  tails := r.tails.map fun tail => tail.map some
  opening_notMem := by
    simpa using r.opening_notMem
  prefix_eq := by
    intro tail isTail other isOther starts
    rcases List.mem_map.mp isTail with ⟨first, isFirst, rfl⟩
    rcases List.mem_map.mp isOther with ⟨second, isSecond, rfl⟩
    rw [r.prefix_eq first isFirst second isSecond
      ((List.prefix_map_iff_of_injective (Option.some_injective β)).mp starts)]

theorem after_gap (m : ℕ) (s : List (Option β)) :
    (entries r).after (List.replicate m none ++ s) = (entries r).after s := by
  induction m with
  | zero => rfl
  | succ m ih =>
      rw [List.replicate_succ, List.cons_append, Resets.after, ih, if_neg (by simp [entries]),
        Option.or_none]

theorem rel_or {γ : Type*} {R : γ → γ → Prop} {a b c d : Option γ} (first : Option.Rel R a b)
    (second : Option.Rel R c d) : Option.Rel R (a.or c) (b.or d) := by
  cases first with
  | some related => exact .some related
  | none => exact second

/-- What follows the last reset is alike. -/
theorem Alike.after {s t : List (Option β)} (alike : Alike s t) :
    Option.Rel Alike ((entries r).after s) ((entries r).after t) := by
  induction alike with
  | nil => exact .none
  | @entry c s t alike ih =>
      rw [Resets.after, Resets.after]
      apply rel_or ih
      have sameFind : (entries r).tails.find? (· <+: s) = (entries r).tails.find? (· <+: t) := by
        apply List.find?_congr
        intro tail isTail
        rcases List.mem_map.mp isTail with ⟨token, -, rfl⟩
        simp only [alike.prefix_iff token]
      split
      · rw [← sameFind]
        cases found : (entries r).tails.find? (· <+: s) with
        | none => exact .none
        | some tail =>
            rcases List.mem_map.mp (List.mem_of_find?_eq_some found) with ⟨token, -, rfl⟩
            have starts : token.map some <+: s := by simpa using List.find?_some found
            rcases starts with ⟨later, rfl⟩
            rcases alike.prefix_of_prefix ⟨later, rfl⟩ with ⟨other, rfl⟩
            rw [Option.map_some, Option.map_some, List.drop_left, List.drop_left]
            exact .some alike.drop
      · exact .none
  | gap _ _ _ ih =>
      rw [after_gap, after_gap]
      exact ih

theorem Alike.isSome_after {s t : List (Option β)} (alike : Alike s t) :
    ((entries r).after s).isSome = ((entries r).after t).isSome := by
  have related := alike.after r
  generalize (entries r).after s = first at related
  generalize (entries r).after t = second at related
  cases related <;> rfl

theorem Alike.remaining {s t : List (Option β)} (alike : Alike s t) :
    Alike ((entries r).remaining s) ((entries r).remaining t) := by
  have related := alike.after r
  rw [Resets.remaining, Resets.remaining]
  generalize (entries r).after s = first at related
  generalize (entries r).after t = second at related
  cases related with
  | some rest => exact rest
  | none => exact alike

end Resets

/-- The unit, if it is ASCII. -/
def asciiView (c : UInt16) : Option UInt16 := if c.toNat < 0x80 then some c else none

def byteView (b : UInt8) : Option UInt16 :=
  if b.toNat < 0x80 then some (UInt16.ofNat b.toNat) else none

theorem asciiView_eq_some_iff {c d : UInt16} (isAscii : d.toNat < 0x80) :
    asciiView c = some d ↔ c = d := by
  rw [asciiView, Option.ite_none_right_eq_some, Option.some.injEq]
  constructor
  · rintro ⟨-, same⟩
    exact same
  · rintro rfl
    exact ⟨isAscii, rfl⟩

theorem prefix_asciiView_iff {token : Text} (isAscii : ∀ c ∈ token, c.toNat < 0x80) (s : Text) :
    token.map some <+: s.map asciiView ↔ token <+: s := by
  induction token generalizing s with
  | nil => simp
  | cons d token ih =>
      rw [List.forall_mem_cons] at isAscii
      cases s with
      | nil => simp
      | cons c s =>
          rw [List.map_cons, List.map_cons, List.cons_prefix_cons, List.cons_prefix_cons,
            ih isAscii.2, eq_comm, asciiView_eq_some_iff isAscii.1, eq_comm]

theorem count_asciiView {d : UInt16} (isAscii : d.toNat < 0x80) (s : Text) :
    (s.map asciiView).count (some d) = s.count d := by
  induction s with
  | nil => rfl
  | cons c s ih =>
      simp only [List.map_cons, List.count_cons, ih, beq_iff_eq, asciiView_eq_some_iff isAscii]

/-- The sequences are ASCII. -/
def AsciiResets (r : Resets UInt16) : Prop :=
  r.opening.toNat < 0x80 ∧ ∀ tail ∈ r.tails, ∀ c ∈ tail, c.toNat < 0x80

/-- Resets are found among the ASCII units. -/
theorem after_asciiView {r : Resets UInt16} (isAscii : AsciiResets r) (s : Text) :
    (entries r).after (s.map asciiView) = (r.after s).map (·.map asciiView) := by
  induction s with
  | nil => rfl
  | cons c s ih =>
      have opens : asciiView c = (entries r).opening ↔ c = r.opening :=
        asciiView_eq_some_iff isAscii.1
      have sameFind : (entries r).tails.find? (· <+: s.map asciiView) =
          (r.tails.find? (· <+: s)).map (·.map some) := by
        rw [entries, List.find?_map]
        congr 1
        apply List.find?_congr
        intro tail isTail
        simp only [Function.comp_apply, prefix_asciiView_iff (isAscii.2 tail isTail)]
      rw [List.map_cons, Resets.after, Resets.after, ih, Option.map_or, sameFind]
      congr 1
      by_cases isOpening : c = r.opening
      · rw [if_pos (opens.mpr isOpening), if_pos isOpening, Option.map_map, Option.map_map]
        congr 1
        funext tail
        simp only [Function.comp_apply, List.length_map, List.map_drop]
      · rw [if_neg (fun same => isOpening (opens.mp same)), if_neg isOpening]
        rfl

theorem remaining_asciiView {r : Resets UInt16} (isAscii : AsciiResets r) (s : Text) :
    (entries r).remaining (s.map asciiView) = (r.remaining s).map asciiView := by
  rw [Resets.remaining, after_asciiView isAscii, Resets.remaining]
  cases r.after s <;> rfl

/-- The sequence cannot be completed to an ASCII code point. -/
def Pending.Large (pending : Pending) : Prop :=
  (pending.needed = 1 → 2 ≤ pending.value) ∧
    (2 ≤ pending.needed → 1 ≤ pending.value ∨ 0x82 ≤ pending.lower)

theorem map_asciiView_units {p : ℕ} (large : 0x80 ≤ p) (lt : p < 0x110000) :
    ∃ m, 0 < m ∧ (units p).map asciiView = List.replicate m none := by
  have hidden : ∀ c ∈ units p, asciiView c = none := by
    intro c mem
    rw [asciiView, if_neg]
    rcases toNat_of_mem_units lt mem with same | high <;> omega
  refine ⟨(units p).length, ?_, ?_⟩
  · rw [units]
    split <;> simp
  · rw [List.map_congr_left hidden, List.map_const']

/-- What one byte between two sequences does: it is read at once, or it opens a sequence. -/
theorem lead_cases (b : UInt8) :
    (lead b).2 = none ∧ Alike ((lead b).1.map asciiView) [byteView b] ∨
      ∃ pending, lead b = ([], some pending) ∧ pending.Large ∧ byteView b = none := by
  by_cases small : b.toNat < 0x80
  · left
    have same : (UInt16.ofNat b.toNat).toNat = b.toNat :=
      UInt16.toNat_ofNat_of_lt' (by simp only [UInt16.size]; omega)
    simp only [lead, byteView, asciiView, if_pos small, List.map_cons, List.map_nil, same, true_and]
    exact .entry _ .nil
  · have hidden : byteView b = none := if_neg small
    simp only [lead, if_neg small]
    split_ifs
    all_goals
      first
      | right
        refine ⟨_, rfl, ?_, hidden⟩
        simp only [Pending.Large]
        omega
      | left
        rw [hidden]
        exact ⟨rfl, .refl _⟩

theorem Pending.Large.next {pending : Pending} (large : pending.Large)
    (completes : pending.Completes) {n : ℕ} (lower : pending.lower ≤ n)
    (more : pending.needed ≠ 1) :
    Pending.Large ⟨pending.needed - 1, 0x80, 0xBF, pending.value * 64 + (n - 0x80)⟩ := by
  have two : 2 ≤ pending.needed := by
    have := completes.1
    omega
  rcases large.2 two with value | bound <;> constructor <;> intro _ <;> simp only <;> omega

/-- Decoding keeps the ASCII bytes and fills the gaps between them. -/
theorem alike_decodeFrom (bytes : List UInt8) :
    Alike ((decodeFrom none bytes).map asciiView) (bytes.map byteView) ∧
      ∀ pending : Pending, pending.Completes → pending.Large →
        Alike ((decodeFrom (some pending) bytes).map asciiView) (none :: bytes.map byteView) := by
  induction bytes with
  | nil => exact ⟨.nil, fun _ _ _ => .refl _⟩
  | cons b bytes ih =>
      have fresh : Alike ((decodeFrom none (b :: bytes)).map asciiView)
          (byteView b :: bytes.map byteView) := by
        rw [decodeFrom_cons, advance, List.map_append]
        rcases lead_cases b with ⟨complete, alike⟩ | ⟨pending, opens, large, hidden⟩
        · rw [complete]
          exact alike.append ih.1
        · have completes := (lead_completes b).2 pending (by rw [opens]; rfl)
          rw [opens, hidden]
          exact ih.2 pending completes large
      refine ⟨fresh, ?_⟩
      intro pending completes large
      rw [List.map_cons]
      by_cases inRange : pending.lower ≤ b.toNat ∧ b.toNat ≤ pending.upper
      · have hidden : byteView b = none := by
          have := completes.2.1
          exact if_neg (by omega)
        have scalar := completes.2.2.2 b.toNat inRange.1 inRange.2 0 (Nat.pow_pos (by norm_num))
        have each : ∀ other ∈ some pending, other.Completes := by simpa using completes
        have next := advance_completes each b
        rw [decodeFrom_cons, hidden]
        simp only [advance, if_pos inRange] at next ⊢
        by_cases last : pending.needed = 1
        · rw [last, Nat.sub_self, pow_zero, Nat.mul_one, Nat.add_zero] at scalar
          have value := large.1 last
          rcases map_asciiView_units (by omega) scalar.1 with ⟨m, nonempty, units⟩
          rw [if_pos last, List.map_append, units]
          exact ih.1.gap nonempty (n := 2) Nat.two_pos
        · rw [if_neg last] at next ⊢
          exact (ih.2 _ (next.2 _ rfl) (large.next completes inRange.1 last)).widen
      · -- the byte ends the sequence and is read again on its own
        have again : decodeFrom (some pending) (b :: bytes) =
            0xFFFD :: decodeFrom none (b :: bytes) := by
          rw [decodeFrom_cons, decodeFrom_cons]
          simp only [advance, if_neg inRange]
          rfl
        rw [again]
        exact fresh.gap (m := 1) (n := 1) Nat.one_pos Nat.one_pos

theorem alike_decodeUtf8 (bytes : List UInt8) :
    Alike ((decodeUtf8 bytes).map asciiView) (bytes.map byteView) :=
  (alike_decodeFrom bytes).1

end GRoute.Text
