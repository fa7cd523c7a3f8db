import MeterSync.Json.Parser
import MeterSync.Json.Printer

/-!
# Printing and parsing JSON

Every value reads back from its text, whatever the layout, as long as the layout puts nothing but
blanks between the parts of a value.
-/

set_option autoImplicit false

namespace MeterSync.Json

/-! ## Numbers -/

/-- What follows a number neither adds a digit to it nor goes on with a fraction or an exponent. -/
def EndsNumber (rest : List Char) : Prop :=
  ∀ c, rest.head? = some c → c.isDigit = false ∧ c ≠ '.' ∧ c ≠ 'e' ∧ c ≠ 'E'

theorem digits_isDigit {n : Nat} {c : Char} (member : c ∈ digits n) : c.isDigit = true :=
  Nat.isDigit_of_mem_toDigits (by decide) (by decide) member

theorem digits_ne_nil (n : Nat) : digits n ≠ [] :=
  Nat.toDigits_ne_nil

theorem number_digits (n : Nat) : number (digits n) = n :=
  Nat.ofDigitChars_toDigits (by decide) (by decide)

/-- A row of digits is read up to where it ends. -/
theorem digitRow_digits (n : Nat) {rest : List Char}
    (ends : ∀ c, rest.head? = some c → c.isDigit = false) :
    digitRow (digits n ++ rest) = some (digits n, rest) := by
  have digit : ∀ c ∈ digits n, c.isDigit = true := fun c member => digits_isDigit member
  have taken : rest.takeWhile Char.isDigit = [] := by
    cases rest with
    | nil => rfl
    | cons c rest => simp [ends c rfl]
  have dropped : rest.dropWhile Char.isDigit = rest := by
    cases rest with
    | nil => rfl
    | cons c rest => simp [ends c rfl]
  have nonempty := digits_ne_nil n
  rw [digitRow, List.takeWhile_append_of_pos digit, List.dropWhile_append_of_pos digit, taken,
    dropped, List.append_nil]
  split
  · simp_all
  · rfl

theorem digits_head (n : Nat) {later : List Char} (starts : digits n = '0' :: later) :
    later = [] := by
  induction n using Nat.strongRecOn generalizing later with
  | ind n ih =>
      rcases Nat.lt_or_ge n 10 with small | large
      · rw [digits, Nat.toDigits_of_lt_base small] at starts
        simp_all
      · have split : digits n = digits (n / 10) ++ digits (n % 10) := by
          simp [digits, Nat.toDigits_of_base_le (by decide) large,
            Nat.toDigits_of_lt_base (Nat.mod_lt n (by decide : 0 < 10))]
        have positive : 0 < n / 10 := by omega
        rw [split] at starts
        cases front : digits (n / 10) with
        | nil => exact absurd front (digits_ne_nil _)
        | cons c front' =>
            rw [front] at starts
            simp only [List.cons_append, List.cons.injEq] at starts
            have none := ih (n / 10) (by omega) (starts.1 ▸ front)
            subst none
            rw [starts.1] at front
            have zero := number_digits (n / 10)
            rw [front] at zero
            have : number ['0'] = 0 := by decide
            omega

theorem wholePart_digits (n : Nat) {rest : List Char}
    (ends : ∀ c, rest.head? = some c → c.isDigit = false) :
    wholePart (digits n ++ rest) = some (digits n, rest) := by
  rw [wholePart, digitRow_digits n ends]
  split
  · rename_i c later rest' same
    simp only [Option.some.injEq, Prod.mk.injEq] at same
    have := digits_head n same.1
    simp_all
  · rfl

theorem unsigned_digits (negative : Bool) (n : Nat) {rest : List Char} (ends : EndsNumber rest) :
    unsigned negative (digits n ++ rest) = some (ofParts negative (digits n) none none, rest) := by
  have fraction : fractionPart rest = some (none, rest) := by
    unfold fractionPart
    split
    · exact absurd rfl (ends _ rfl).2.1
    · rfl
  have exponent : exponentPart rest = some (none, rest) := by
    unfold exponentPart
    split
    · exact absurd rfl (ends _ rfl).2.2.1
    · exact absurd rfl (ends _ rfl).2.2.2
    · rfl
  rw [unsigned, wholePart_digits n (fun c head => (ends c head).1)]
  simp only [fraction, exponent]

theorem exponentBody_signedDigits (n : Int) {rest : List Char} (ends : EndsNumber rest) :
    exponentBody (signedDigits n ++ rest) = some (n, rest) := by
  have unmarked : ∀ m : Nat, exponentSign (digits m ++ rest) = (false, digits m ++ rest) := by
    intro m
    have nonempty := digits_ne_nil m
    cases front : digits m with
    | nil => exact absurd front nonempty
    | cons c later =>
        have digit : c.isDigit = true := digits_isDigit (front ▸ List.mem_cons_self)
        unfold exponentSign
        split
        · rename_i same
          simp only [List.cons_append, List.cons.injEq] at same
          exact absurd digit (same.1 ▸ by decide)
        · rename_i same
          simp only [List.cons_append, List.cons.injEq] at same
          exact absurd digit (same.1 ▸ by decide)
        · rfl
  have row : ∀ m : Nat, digitRow (digits m ++ rest) = some (digits m, rest) := fun m =>
    digitRow_digits m fun c head => (ends c head).1
  cases n with
  | ofNat m => simp [signedDigits, exponentBody, unmarked, row, number_digits]
  | negSucc m =>
      simp [signedDigits, exponentBody, exponentSign, row, number_digits, Int.negSucc_eq]

theorem unsigned_decimal (negative : Bool) (n : Nat) (exponent : Int) {rest : List Char}
    (ends : EndsNumber rest) :
    unsigned negative (digits n ++ 'e' :: (signedDigits exponent ++ rest)) =
      some (.decimal negative n exponent, rest) := by
  have whole : wholePart (digits n ++ 'e' :: (signedDigits exponent ++ rest)) =
      some (digits n, 'e' :: (signedDigits exponent ++ rest)) := by
    apply wholePart_digits
    intro c head
    simp only [List.head?_cons, Option.some.injEq] at head
    subst head
    decide
  rw [unsigned, whole]
  simp [fractionPart, exponentPart, exponentBody_signedDigits exponent ends, ofParts,
    number_digits]

/-! ## Strings -/

theorem lookup_mem {α β : Type} [BEq α] [LawfulBEq α] {pairs : List (α × β)} {a : α} {b : β}
    (found : pairs.lookup a = some b) : (a, b) ∈ pairs := by
  induction pairs with
  | nil => simp at found
  | cons pair pairs ih =>
      rw [List.lookup_cons] at found
      split at found
      · rename_i same
        simp only [Option.some.injEq] at found
        rw [eq_of_beq same, ← found]
        exact List.mem_cons_self
      · exact List.mem_cons_of_mem _ (ih found)

theorem unescape?_short : ∀ pair ∈ shortEscapes,
    unescape? pair.2 = some pair.1 ∧ pair.2 ≠ 'u' := by
  decide

theorem units_short {c letter : Char} (plain : unescape? letter = some c) (other : letter ≠ 'u')
    (rest : List Char) :
    units ('\\' :: letter :: rest) = (units rest).map fun read => (c.toNat :: read.1, read.2) := by
  rw [units.eq_4 _ _ (by simp [other])]
  rw [plain]
  cases units rest <;> rfl

theorem ofDigits?_control {code : Nat} (small : code < 0x20) :
    ofDigits? 16 ['0', '0', Nat.digitChar (code / 16), Nat.digitChar (code % 16)] = some code := by
  revert code
  decide

theorem units_control {code : Nat} (small : code < 0x20) (rest : List Char) :
    units ('\\' :: 'u' :: '0' :: '0' :: Nat.digitChar (code / 16) :: Nat.digitChar (code % 16) ::
        rest) =
      (units rest).map fun read => (code :: read.1, read.2) := by
  rw [units.eq_3, ofDigits?_control small]
  cases units rest <;> rfl

theorem units_plain {c : Char} (quoteless : c ≠ '"') (slashless : c ≠ '\\')
    (large : ¬ c.toNat < 0x20) (rest : List Char) :
    units (c :: rest) = (units rest).map fun read => (c.toNat :: read.1, read.2) := by
  rw [units.eq_5 _ _ (by simp [quoteless]) (by simp [slashless]) (by simp [slashless])]
  rw [if_neg large]
  cases units rest <;> rfl

theorem units_escape (c : Char) (rest : List Char) :
    units (escape c ++ rest) = (units rest).map fun read => (c.toNat :: read.1, read.2) := by
  unfold escape
  split
  · rename_i letter found
    have short := unescape?_short _ (lookup_mem found)
    exact units_short short.1 short.2 rest
  · rename_i missing
    split
    · rename_i small
      exact units_control small rest
    · rename_i large
      refine units_plain ?_ ?_ large rest
      · rintro rfl
        exact absurd missing (by decide)
      · rintro rfl
        exact absurd missing (by decide)

theorem units_quoted (cs rest : List Char) :
    units (cs.flatMap escape ++ '"' :: rest) = some (cs.map Char.toNat, rest) := by
  induction cs with
  | nil => rfl
  | cons c cs ih =>
      rw [List.flatMap_cons, List.append_assoc, units_escape, ih]
      rfl

theorem characters?_map (cs : List Char) : characters? (cs.map Char.toNat) = some cs := by
  have half : ∀ c : Char, isLeading c.toNat = false ∧ isTrailing c.toNat = false := by
    intro c
    have valid := c.valid
    simp only [UInt32.isValidChar, Nat.isValidChar] at valid
    simp only [isLeading, isTrailing, Char.toNat]
    grind
  induction cs with
  | nil => rfl
  | cons c cs ih =>
      cases cs with
      | nil => simp [characters?, half]
      | cons next cs =>
          rw [List.map_cons, List.map_cons, characters?, half c |>.1, half c |>.2]
          rw [List.map_cons] at ih
          simp [ih]

theorem stringBody_quote (text : String) (rest : List Char) :
    stringBody (text.toList.flatMap escape ++ '"' :: rest) = some (some text, rest) := by
  rw [stringBody, units_quoted]
  simp [characters?_map]

/-! ## Gaps -/

/-- A layout puts nothing but blanks between the parts of a value. -/
structure Layout.Blank (layout : Layout) : Prop where
  newline : ∀ depth, ∀ c ∈ layout.newline depth, isGap c = true
  gap : ∀ c ∈ layout.gap, isGap c = true

theorem Layout.blank_compact : Layout.compact.Blank :=
  ⟨by simp [Layout.compact], by simp [Layout.compact]⟩

theorem Layout.blank_indented : Layout.indented.Blank where
  newline depth c member := by
    simp only [Layout.indented, List.mem_cons, List.mem_replicate] at member
    rcases member with rfl | ⟨_, rfl⟩ <;> decide
  gap c member := by
    simp only [Layout.indented, List.mem_singleton] at member
    subst member
    decide

theorem skipGaps_append {gaps : List Char} (blank : ∀ c ∈ gaps, isGap c = true)
    (rest : List Char) : skipGaps (gaps ++ rest) = skipGaps rest :=
  List.dropWhile_append_of_pos blank

theorem skipGaps_cons {c : Char} (mark : isGap c = false) (rest : List Char) :
    skipGaps (c :: rest) = c :: rest := by
  simp [skipGaps, mark]

theorem value_append {gaps : List Char} (blank : ∀ c ∈ gaps, isGap c = true) (fuel : Nat)
    (rest : List Char) : value fuel (gaps ++ rest) = value fuel rest := by
  cases fuel with
  | zero => simp [value]
  | succ fuel => rw [value, value, skipGaps_append blank]

theorem itemsAfter_append {gaps : List Char} (blank : ∀ c ∈ gaps, isGap c = true) (fuel : Nat)
    (rest : List Char) : itemsAfter fuel (gaps ++ rest) = itemsAfter fuel rest := by
  cases fuel with
  | zero => simp [itemsAfter]
  | succ fuel => rw [itemsAfter, itemsAfter, skipGaps_append blank]

theorem membersAfter_append {gaps : List Char} (blank : ∀ c ∈ gaps, isGap c = true) (fuel : Nat)
    (rest : List Char) : membersAfter fuel (gaps ++ rest) = membersAfter fuel rest := by
  cases fuel with
  | zero => simp [membersAfter]
  | succ fuel => rw [membersAfter, membersAfter, skipGaps_append blank]

/-! ## Values -/

/-- A value starts with a character that neither is a blank nor closes anything. -/
theorem write_head (layout : Layout) (depth : Nat) (v : Json) :
    ∃ c rest, v.write layout depth = c :: rest ∧ isGap c = false ∧ c ≠ ']' ∧ c ≠ '}' := by
  have row : ∀ n, ∃ c rest, digits n = c :: rest ∧ isGap c = false ∧ c ≠ ']' ∧ c ≠ '}' := by
    intro n
    cases front : digits n with
    | nil => exact absurd front (digits_ne_nil n)
    | cons c rest =>
        have digit : c.isDigit = true := digits_isDigit (front ▸ List.mem_cons_self)
        refine ⟨c, rest, rfl, ?_, ?_, ?_⟩
        · cases mark : isGap c with
          | false => rfl
          | true =>
              simp only [isGap, Bool.or_eq_true, decide_eq_true_eq] at mark
              rcases mark with ((rfl | rfl) | rfl) | rfl <;> exact absurd digit (by decide)
        · rintro rfl
          exact absurd digit (by decide)
        · rintro rfl
          exact absurd digit (by decide)
  have fixed : ∀ c : Char, c ∈ ['n', 't', 'f', '"', '[', '{', '-'] →
      isGap c = false ∧ c ≠ ']' ∧ c ≠ '}' := by
    intro c member
    simp only [List.mem_cons, List.not_mem_nil, or_false] at member
    rcases member with rfl | rfl | rfl | rfl | rfl | rfl | rfl <;> decide
  cases v with
  | null => exact ⟨_, _, by rw [write], fixed _ (by decide)⟩
  | bool value => cases value <;> exact ⟨_, _, by rw [write], fixed _ (by decide)⟩
  | integer n =>
      cases n with
      | ofNat n => rw [write]; exact row n
      | negSucc n => exact ⟨_, _, by rw [write, signedDigits], fixed _ (by decide)⟩
  | decimal negative n exponent =>
      cases negative with
      | true => exact ⟨_, _, by rw [write, decimalDigits]; rfl, fixed _ (by decide)⟩
      | false =>
          obtain ⟨c, rest, front, facts⟩ := row n
          exact ⟨c, _, by rw [write, decimalDigits, front]; rfl, facts⟩
  | string text => cases text <;> exact ⟨_, _, by rw [write]; rfl, fixed _ (by decide)⟩
  | array items =>
      cases items with
      | nil => exact ⟨_, _, by rw [write], fixed _ (by decide)⟩
      | cons item items => exact ⟨_, _, by rw [write], fixed _ (by decide)⟩
  | object members =>
      cases members with
      | nil => exact ⟨_, _, by rw [write], fixed _ (by decide)⟩
      | cons member members => exact ⟨_, _, by rw [write], fixed _ (by decide)⟩

theorem value_digits (fuel n : Nat) (rest : List Char) :
    value (fuel + 1) (digits n ++ rest) = unsigned false (digits n ++ rest) := by
  cases front : digits n with
  | nil => exact absurd front (digits_ne_nil n)
  | cons c later =>
      have digit : c.isDigit = true := digits_isDigit (front ▸ List.mem_cons_self)
      have mark : isGap c = false := by
        cases mark : isGap c with
        | false => rfl
        | true =>
            simp only [isGap, Bool.or_eq_true, decide_eq_true_eq] at mark
            rcases mark with ((rfl | rfl) | rfl) | rfl <;> exact absurd digit (by decide)
      have other : ∀ d : Char, d.isDigit = false → c ≠ d := by
        rintro d no rfl
        simp [digit] at no
      rw [value, List.cons_append, skipGaps_cons mark]
      split
      case h_8 => rfl
      all_goals
        rename_i same
        simp only [List.cons.injEq] at same
        exact absurd same.1 (other _ rfl)

theorem memberName_quote (name : Option String) (rest : List Char) :
    memberName (quote? name ++ ':' :: rest) = some (name, rest) := by
  cases name with
  | none => rfl
  | some text =>
      rw [quote?, quote, List.cons_append, List.append_assoc, memberName, List.singleton_append,
        stringBody_quote]
      simp [skipGaps, isGap]

/-! ## Fuel -/

mutual
def steps : Json → Nat
  | .array [] => 1
  | .array (item :: items) => 1 + item.steps + itemSteps items
  | .object [] => 1
  | .object ((_, value) :: members) => 1 + value.steps + memberSteps members
  | .null => 1
  | .bool _ => 1
  | .integer _ => 1
  | .decimal .. => 1
  | .string _ => 1

/-- The fuel that reading the items behind one takes. -/
def itemSteps : List Json → Nat
  | [] => 1
  | item :: items => 1 + item.steps + itemSteps items

/-- The fuel that reading the members behind one takes. -/
def memberSteps : List (Option String × Json) → Nat
  | [] => 1
  | (_, value) :: members => 1 + value.steps + memberSteps members
end

theorem endsNumber_cons {c : Char} (rest : List Char)
    (mark : c.isDigit = false ∧ c ≠ '.' ∧ c ≠ 'e' ∧ c ≠ 'E') : EndsNumber (c :: rest) := by
  intro d head
  simp only [List.head?_cons, Option.some.injEq] at head
  exact head ▸ mark

theorem endsNumber_append {layout : Layout} (blank : layout.Blank) (depth : Nat) {rest : List Char}
    (ends : EndsNumber rest) : EndsNumber (layout.newline depth ++ rest) := by
  cases line : layout.newline depth with
  | nil => exact ends
  | cons c later =>
      have gap := blank.newline depth c (line ▸ List.mem_cons_self)
      simp only [isGap, Bool.or_eq_true, decide_eq_true_eq] at gap
      apply endsNumber_cons
      rcases gap with ((rfl | rfl) | rfl) | rfl <;> decide

theorem endsNumber_writeItems {layout : Layout} (blank : layout.Blank) (depth : Nat)
    (items : List Json) (rest : List Char) :
    EndsNumber (writeItems layout depth items ++ rest) := by
  cases items with
  | nil =>
      rw [writeItems, List.append_assoc]
      exact endsNumber_append blank depth (endsNumber_cons _ (by decide))
  | cons item items =>
      rw [writeItems]
      exact endsNumber_cons _ (by decide)

theorem endsNumber_writeMembers {layout : Layout} (blank : layout.Blank) (depth : Nat)
    (members : List (Option String × Json)) (rest : List Char) :
    EndsNumber (writeMembers layout depth members ++ rest) := by
  cases members with
  | nil =>
      rw [writeMembers, List.append_assoc]
      exact endsNumber_append blank depth (endsNumber_cons _ (by decide))
  | cons member members =>
      rw [writeMembers]
      exact endsNumber_cons _ (by decide)

/-! ## Reading what was written -/

mutual
theorem value_write {layout : Layout} (blank : layout.Blank) : ∀ (v : Json) (depth fuel : Nat)
    (rest : List Char), v.steps ≤ fuel → EndsNumber rest →
      value fuel (v.write layout depth ++ rest) = some (v, rest)
  | v, depth, 0, rest, enough, _ => by
      cases v with
      | array items => cases items <;> simp [steps] at enough
      | object members => cases members <;> simp [steps] at enough
      | null => simp [steps] at enough
      | bool _ => simp [steps] at enough
      | integer _ => simp [steps] at enough
      | decimal _ _ _ => simp [steps] at enough
      | string _ => simp [steps] at enough
  | .null, depth, fuel + 1, rest, _, _ => by
      simp [write, value, skipGaps, isGap]
  | .bool true, depth, fuel + 1, rest, _, _ => by
      simp [write, value, skipGaps, isGap]
  | .bool false, depth, fuel + 1, rest, _, _ => by
      simp [write, value, skipGaps, isGap]
  | .integer (.ofNat n), depth, fuel + 1, rest, _, ends => by
      rw [write, signedDigits, value_digits, unsigned_digits false n ends]
      simp [ofParts, number_digits]
  | .integer (.negSucc n), depth, fuel + 1, rest, _, ends => by
      rw [write, signedDigits, List.cons_append, value, skipGaps_cons (by decide)]
      simp only
      rw [unsigned_digits true (n + 1) ends]
      simp [ofParts, number_digits, Int.negSucc_eq]
  | .decimal true n exponent, depth, fuel + 1, rest, _, ends => by
      rw [write, decimalDigits, if_pos rfl, List.singleton_append, List.cons_append,
        List.cons_append, value, skipGaps_cons (by decide)]
      simp only
      rw [List.append_assoc, List.cons_append, unsigned_decimal true n exponent ends]
  | .decimal false n exponent, depth, fuel + 1, rest, _, ends => by
      rw [write, decimalDigits, if_neg (by decide), List.nil_append, List.append_assoc,
        List.cons_append, value_digits, unsigned_decimal false n exponent ends]
  | .string none, depth, fuel + 1, rest, _, _ => by
      rw [write, quote?, unpairedQuote]
      simp only [List.cons_append, value, skipGaps_cons (show isGap '"' = false by decide)]
      rfl
  | .string (some text), depth, fuel + 1, rest, _, _ => by
      rw [write, quote?, quote, List.cons_append, List.append_assoc, List.singleton_append, value,
        skipGaps_cons (by decide)]
      simp only
      rw [stringBody_quote]
      rfl
  | .array [], depth, fuel + 1, rest, _, _ => by
      simp [write, value, skipGaps, isGap]
  | .array (item :: items), depth, fuel + 1, rest, enough, ends => by
      rw [steps] at enough
      obtain ⟨c, later, front, mark, unclosing, _⟩ := write_head layout (depth + 1) item
      have read := value_write blank item (depth + 1) fuel
        (writeItems layout depth items ++ rest) (by omega)
        (endsNumber_writeItems blank depth items rest)
      have after := itemsAfter_writeItems blank items depth fuel rest (by omega)
      rw [write, List.cons_append, value, skipGaps_cons (by decide)]
      simp only [List.append_assoc]
      rw [skipGaps_append (blank.newline _), value_append (blank.newline _), read]
      rw [front, List.cons_append, skipGaps_cons mark]
      simp only [after]
      split
      · rename_i same
        simp only [List.cons.injEq] at same
        exact absurd same.1 unclosing
      · rfl
  | .object [], depth, fuel + 1, rest, _, _ => by
      simp [write, value, skipGaps, isGap]
  | .object ((name, v) :: members), depth, fuel + 1, rest, enough, ends => by
      rw [steps] at enough
      have read := value_write blank v (depth + 1) fuel
        (writeMembers layout depth members ++ rest) (by omega)
        (endsNumber_writeMembers blank depth members rest)
      have after := membersAfter_writeMembers blank members depth fuel rest (by omega)
      have opening : ∃ later, quote? name = '"' :: later := by
        cases name <;> exact ⟨_, rfl⟩
      obtain ⟨later, opening⟩ := opening
      have named := memberName_quote name
        (layout.gap ++ (v.write layout (depth + 1) ++ (writeMembers layout depth members ++ rest)))
      rw [write, List.cons_append, value, skipGaps_cons (by decide)]
      simp only [List.append_assoc, List.cons_append]
      rw [opening, List.cons_append] at named
      rw [skipGaps_append (blank.newline _), opening, List.cons_append, skipGaps_cons (by decide)]
      split
      · rename_i same
        simp at same
      · simp only [named, value_append blank.gap, read, after]

theorem itemsAfter_writeItems {layout : Layout} (blank : layout.Blank) :
    ∀ (items : List Json) (depth fuel : Nat) (rest : List Char), itemSteps items ≤ fuel →
      itemsAfter fuel (writeItems layout depth items ++ rest) = some (items, rest)
  | items, depth, 0, rest, enough => by cases items <;> simp [itemSteps] at enough
  | [], depth, fuel + 1, rest, _ => by
      rw [writeItems, List.append_assoc, itemsAfter_append (blank.newline depth), itemsAfter]
      simp [skipGaps, isGap]
  | item :: items, depth, fuel + 1, rest, enough => by
      rw [itemSteps] at enough
      have read := value_write blank item (depth + 1) fuel
        (writeItems layout depth items ++ rest) (by omega)
        (endsNumber_writeItems blank depth items rest)
      have after := itemsAfter_writeItems blank items depth fuel rest (by omega)
      rw [writeItems, List.cons_append, itemsAfter, skipGaps_cons (by decide)]
      simp only [List.append_assoc, value_append (blank.newline _), read, after]

theorem membersAfter_writeMembers {layout : Layout} (blank : layout.Blank) :
    ∀ (members : List (Option String × Json)) (depth fuel : Nat) (rest : List Char),
      memberSteps members ≤ fuel →
      membersAfter fuel (writeMembers layout depth members ++ rest) = some (members, rest)
  | members, depth, 0, rest, enough => by cases members <;> simp [memberSteps] at enough
  | [], depth, fuel + 1, rest, _ => by
      rw [writeMembers, List.append_assoc, membersAfter_append (blank.newline depth), membersAfter]
      simp [skipGaps, isGap]
  | (name, v) :: members, depth, fuel + 1, rest, enough => by
      rw [memberSteps] at enough
      have read := value_write blank v (depth + 1) fuel
        (writeMembers layout depth members ++ rest) (by omega)
        (endsNumber_writeMembers blank depth members rest)
      have after := membersAfter_writeMembers blank members depth fuel rest (by omega)
      have opening : ∃ later, quote? name = '"' :: later := by
        cases name <;> exact ⟨_, rfl⟩
      obtain ⟨later, opening⟩ := opening
      have named := memberName_quote name
        (layout.gap ++ (v.write layout (depth + 1) ++ (writeMembers layout depth members ++ rest)))
      rw [writeMembers, List.cons_append, membersAfter, skipGaps_cons (by decide)]
      simp only [List.append_assoc, List.cons_append]
      rw [opening, List.cons_append] at named
      rw [skipGaps_append (blank.newline _), opening, List.cons_append, skipGaps_cons (by decide)]
      simp only [named, value_append blank.gap, read, after]
end

/-! ## Texts -/

theorem quote?_length (text : Option String) : 1 ≤ (quote? text).length := by
  cases text <;> simp [quote?, quote, unpairedQuote]

mutual
theorem steps_le (layout : Layout) : ∀ (v : Json) (depth : Nat),
    v.steps ≤ (v.write layout depth).length
  | .null, _ => by simp [steps, write]
  | .bool true, _ => by simp [steps, write]
  | .bool false, _ => by simp [steps, write]
  | .integer (.ofNat n), _ => by
      have := List.length_pos_iff.mpr (digits_ne_nil n)
      simp only [steps, write, signedDigits]
      omega
  | .integer (.negSucc n), _ => by simp [steps, write, signedDigits]
  | .decimal _ n exponent, _ => by
      simp only [steps, write, decimalDigits, List.length_append, List.length_cons]
      omega
  | .string text, _ => by
      have := quote?_length text
      simpa [steps, write] using this
  | .array [], _ => by simp [steps, write]
  | .array (item :: items), depth => by
      have first := steps_le layout item (depth + 1)
      have others := itemSteps_le layout items depth
      simp only [steps, write, List.length_cons, List.length_append]
      omega
  | .object [], _ => by simp [steps, write]
  | .object ((name, v) :: members), depth => by
      have first := steps_le layout v (depth + 1)
      have others := memberSteps_le layout members depth
      simp only [steps, write, List.length_cons, List.length_append]
      omega

theorem itemSteps_le (layout : Layout) : ∀ (items : List Json) (depth : Nat),
    itemSteps items ≤ (writeItems layout depth items).length
  | [], _ => by simp [itemSteps, writeItems]
  | item :: items, depth => by
      have first := steps_le layout item (depth + 1)
      have others := itemSteps_le layout items depth
      simp only [itemSteps, writeItems, List.length_cons, List.length_append]
      omega

theorem memberSteps_le (layout : Layout) :
    ∀ (members : List (Option String × Json)) (depth : Nat),
      memberSteps members ≤ (writeMembers layout depth members).length
  | [], _ => by simp [memberSteps, writeMembers]
  | (name, v) :: members, depth => by
      have first := steps_le layout v (depth + 1)
      have others := memberSteps_le layout members depth
      simp only [memberSteps, writeMembers, List.length_cons, List.length_append]
      omega
end

/-- Every layout of a value reads back as that value. -/
theorem parse_print {layout : Layout} (blank : layout.Blank) (v : Json) :
    parse (v.print layout) = some v := by
  have enough := steps_le layout v 0
  have read := value_write blank v 0 ((v.write layout 0).length + 1) [] (by omega)
    (by simp [EndsNumber])
  rw [List.append_nil] at read
  simp [parse, print, read, skipGaps]

end MeterSync.Json
