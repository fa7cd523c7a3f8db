import MeterSync.Text.Capital

/-!
# Keywords

Types with finitely many values that each have a word of their own. The word is written in capital
letters and determines the value.
-/

set_option autoImplicit false

namespace MeterSync

/-- A type whose values, listed in order, each have a word. -/
class Keyword (α : Type) where
  all : List α
  word : α → String
  find_word : ∀ value : α, all.find? (fun other => word other == word value) = some value

namespace Keyword

variable {α : Type} [Keyword α]

def ofWord? (text : String) : Option α :=
  all.find? fun value => word value == text

/-- The value whose word the text spells in any mixture of small and capital letters. -/
def ofText? (text : String) : Option α :=
  ofWord? (capitals text)

@[simp] theorem ofWord?_word (value : α) : ofWord? (word value) = some value :=
  find_word value

theorem mem_all (value : α) : value ∈ (all : List α) :=
  List.mem_of_find?_eq_some (find_word value)

end Keyword

end MeterSync
