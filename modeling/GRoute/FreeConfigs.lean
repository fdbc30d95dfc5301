import GRoute.Foundation.Escaping
import GRoute.Foundation.Text

/-!
# Links of a public channel

`FreeConfigs.kt` scrapes links from the pages of a channel. A page shows a posted text with its HTML
entities, and `unescape` reads the entities of each link one after the other. The entity of the
ampersand is the first, so that an entity that was posted as such is read as well.
-/

namespace GRoute.FreeConfigs

open Escaping

/-- `String.replace` for a text. -/
def replaceText (s old new : Text) : Text := Replacing.replace id old new s

def unescape (raw : Text) : Text :=
  let s := replaceText raw (txt "&amp;") (txt "&")
  let s := replaceText s (txt "&quot;") (txt "\x22")
  let s := replaceText s (txt "&#39;") (txt "\x27")
  let s := replaceText s (txt "&lt;") (txt "<")
  let s := replaceText s (txt "&gt;") (txt ">")
  replaceText s (txt "&nbsp;") (txt " ")

/-- What a page shows for a unit. -/
def escapeUnit (c : UInt16) : Text :=
  if c = unit '&' then txt "&amp;"
  else if c = unit '<' then txt "&lt;"
  else if c = unit '>' then txt "&gt;"
  else if c = unit '\x22' then txt "&quot;"
  else if c = unit '\x27' then txt "&#39;"
  else [c]

/-- The HTML escaping of a text, in a single pass. -/
def escape (s : Text) : Text := s.flatMap escapeUnit

/-- The entities that are escaped, in the order of `unescape`. -/
def writtenEntities : List (Entity UInt16) :=
  [⟨unit '\x22', txt "quot;"⟩, ⟨unit '\x27', txt "#39;"⟩, ⟨unit '<', txt "lt;"⟩,
    ⟨unit '>', txt "gt;"⟩]

/-- All entities that `unescape` reads after that of the ampersand. -/
def entities : List (Entity UInt16) := writtenEntities ++ [⟨unit ' ', txt "nbsp;"⟩]

theorem char_ne_ampersand : ∀ e ∈ entities, e.char ≠ unit '&' := by decide

theorem char_injective : ∀ e ∈ entities, ∀ other ∈ entities, e.char = other.char → e = other := by
  decide

theorem name_plain :
    ∀ e ∈ entities, ∀ c ∈ e.name, c ≠ unit '&' ∧ ∀ other ∈ entities, c ≠ other.char := by
  have unlike : ∀ e ∈ entities, e.name.all (· ∉ txt "&\x22\x27<> ") = true := by decide
  have chars : ∀ e ∈ entities, e.char ∈ txt "&\x22\x27<> " := by decide
  intro e mem c inName
  have plain := of_decide_eq_true (List.all_eq_true.mp (unlike e mem) c inName)
  constructor
  · rintro rfl
    exact plain (by decide)
  · rintro other otherMem rfl
    exact plain (chars other otherMem)

theorem name_nonempty : ∀ e ∈ entities, e.name ≠ [] := by decide

theorem name_prefix : ∀ e ∈ entities, ∀ other ∈ entities, e.name <+: other.name → e = other := by
  decide

theorem ampersand_prefix :
    ∀ e ∈ entities, ¬ txt "amp;" <+: e.name ∧ ¬ e.name <+: txt "amp;" := by
  decide

theorem ampersand_plain : unit '&' ∉ txt "amp;" := by decide

def table : Table UInt16 where
  mark := unit '&'
  markName := txt "amp;"
  entities := entities
  written := writtenEntities
  written_subset := List.subset_append_left _ _
  char_ne_mark := char_ne_ampersand
  char_injective := char_injective
  name_plain := name_plain
  name_nonempty := name_nonempty
  name_prefix := name_prefix
  mark_prefix := ampersand_prefix
  markName_plain := ampersand_plain

theorem unescape_eq (s : Text) : unescape s = table.unescape s := rfl

theorem escapeUnit_eq (c : UInt16) : escapeUnit c = table.escapeUnit c := by
  by_cases known : c ∈ [unit '&', unit '<', unit '>', unit '\x22', unit '\x27']
  · simp only [List.mem_cons, List.not_mem_nil, or_false] at known
    rcases known with rfl | rfl | rfl | rfl | rfl <;> decide
  · simp only [List.mem_cons, List.not_mem_nil, or_false, not_or] at known
    rcases known with ⟨ampersand, less, greater, quote, apostrophe⟩
    have unwritten : writtenEntities.find? (·.char = c) = none := by
      simp [writtenEntities, Ne.symm less, Ne.symm greater, Ne.symm quote, Ne.symm apostrophe]
    rw [escapeUnit, if_neg ampersand, if_neg less, if_neg greater, if_neg quote,
      if_neg apostrophe, Table.escapeUnit]
    refine Eq.trans ?_ (if_neg ampersand).symm
    rw [show table.written = writtenEntities from rfl, unwritten]

theorem escape_eq (s : Text) : escape s = table.escape s :=
  List.flatMap_congr fun c _ => escapeUnit_eq c

/-- A text comes back from a page exactly if it has no entity other than that of the ampersand. -/
theorem unescape_escape_iff (s : Text) :
    unescape (escape s) = s ↔
      ∀ entity ∈ [txt "&quot;", txt "&#39;", txt "&lt;", txt "&gt;", txt "&nbsp;"],
        ¬ entity <:+: s := by
  have listed : [txt "&quot;", txt "&#39;", txt "&lt;", txt "&gt;", txt "&nbsp;"] =
      table.entities.map fun e => table.mark :: e.name := by
    decide
  rw [unescape_eq, escape_eq, Table.unescape_escape_eq_iff, listed, List.forall_mem_map]

/-- A posted entity is read as the unit it stands for. -/
theorem unescape_escape_entity :
    unescape (escape (txt "vless://u@h:1#a&lt;b")) = txt "vless://u@h:1#a<b" ∧
      unescape (escape (txt "vless://u@h:1#a&lt;b")) ≠ txt "vless://u@h:1#a&lt;b" := by
  decide

end GRoute.FreeConfigs
