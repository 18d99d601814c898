/-
Strings of bytes: their literals, those that end at a zero, searching and cutting them,
splitting them at a delimiter, and the decimal number that one begins with.
-/

import Mathlib.Data.List.TakeDrop
import Mathlib.Data.List.TakeWhile
import SpotExchange.Bytes.LittleEndian

namespace SpotExchange
namespace Bytes

abbrev Text := List UInt8

def literal (text : String) : Text := text.toUTF8.data.toList

/-! ### Strings that end at a zero -/

def NoNul (text : Text) : Prop := ∀ byte ∈ text, byte ≠ 0

instance (text : Text) : Decidable (NoNul text) :=
  List.decidableBAll (fun byte => byte ≠ 0) text

/-- The string up to the first zero of an array, if the array has one. -/
def cString (array : List UInt8) : Option Text :=
  if 0 ∈ array then some (array.takeWhile (fun byte => byte ≠ 0)) else none

/-- The front of an array up to its first zero, if it has one. -/
def untilNul : List UInt8 → Text
  | [] => []
  | byte :: rest => if byte = 0 then [] else byte :: untilNul rest

section Padding

variable {text other : Text}

theorem NoNul.take (noNul : NoNul text) (count : Nat) : NoNul (text.take count) :=
  fun byte member => noNul byte (List.mem_of_mem_take member)

theorem untilNul_eq_takeWhile (array : List UInt8) :
    untilNul array = array.takeWhile (fun byte => byte ≠ 0) := by
  induction array with
  | nil => rfl
  | cons byte rest ih =>
      rw [untilNul, List.takeWhile_cons, ih]
      by_cases zero : byte = 0 <;> simp [zero]

/-- Zeros behind a string without zeros do not belong to it. -/
theorem untilNul_padded (noNul : NoNul text) (zeros : Nat) :
    untilNul (text ++ List.replicate zeros 0) = text := by
  induction text with
  | nil => cases zeros <;> rfl
  | cons byte rest ih =>
      have later := ih (fun other member => noNul other (List.mem_cons_of_mem byte member))
      rw [List.cons_append, untilNul, if_neg (noNul byte List.mem_cons_self), later]

theorem cString_padded (noNul : NoNul text) {zeros : Nat} (some : 0 < zeros) :
    cString (text ++ List.replicate zeros 0) = .some text := by
  have ends : (0 : UInt8) ∈ text ++ List.replicate zeros 0 :=
    List.mem_append_right text (List.mem_replicate.mpr ⟨Nat.ne_of_gt some, rfl⟩)
  rw [cString, if_pos ends, ← untilNul_eq_takeWhile, untilNul_padded noNul]

/-- A string that ends within an array is shorter than it. -/
theorem cString_short {array : List UInt8} (ends : cString array = some text) :
    text.length < array.length := by
  rw [cString] at ends
  split at ends
  · next zero =>
      cases ends
      have front := List.takeWhile_prefix (l := array) (fun byte => decide (byte ≠ 0))
      apply Nat.lt_of_le_of_ne front.length_le
      intro whole
      have same := front.eq_of_length whole
      rw [List.takeWhile_eq_self_iff] at same
      exact absurd (same 0 zero) (by decide)
  · cases ends

theorem cString_unended (noNul : NoNul text) : cString text = none :=
  if_neg (fun zero => noNul 0 zero rfl)

theorem padded_injective (noNul : NoNul text) (noNulOther : NoNul other) {zeros more : Nat}
    (same : text ++ List.replicate zeros 0 = other ++ List.replicate more 0) : text = other := by
  have ends := congrArg untilNul same
  rw [untilNul_padded noNul, untilNul_padded noNulOther] at ends
  exact ends

end Padding

/-! ### Searching -/

/-- The first place of a pattern in a text. -/
def firstPlace (pattern : Text) : Text → Option Nat
  | [] => if pattern = [] then some 0 else none
  | byte :: rest =>
      if pattern.isPrefixOf (byte :: rest) then some 0
      else (firstPlace pattern rest).map (· + 1)

/-- The first place of a pattern at or after a position. -/
def find (text pattern : Text) (pos : Nat) : Option Nat :=
  if pos ≤ text.length then (firstPlace pattern (text.drop pos)).map (· + pos) else none

/-- At most so many bytes from a position on, which lies within the text or at its end. -/
def substr (text : Text) (pos count : Nat) : Option Text :=
  if pos ≤ text.length then some ((text.drop pos).take count) else none

/-- So many bytes from a position on, or as many as there are, give way to another text. -/
def replace (text : Text) (pos count : Nat) (other : Text) : Option Text :=
  if pos ≤ text.length then some (text.take pos ++ other ++ text.drop (pos + count)) else none

section Searching

variable {pattern front back : Text}

theorem firstPlace_here (pattern rest : Text) : firstPlace pattern (pattern ++ rest) = some 0 := by
  cases whole : pattern ++ rest with
  | nil =>
      have empty := (List.append_eq_nil_iff.mp whole).1
      rw [firstPlace, if_pos empty]
  | cons byte others =>
      have begins : pattern.isPrefixOf (byte :: others) = true := by
        rw [List.isPrefixOf_iff_prefix, ← whole]
        exact List.prefix_append pattern rest
      rw [firstPlace, if_pos begins]

/-- Where the pattern does not begin within the front, it is looked for behind it. -/
theorem firstPlace_skip (nowhere : ∀ before after, front = before ++ after → after ≠ [] →
      ¬pattern <+: after ++ back) :
    firstPlace pattern (front ++ back) = (firstPlace pattern back).map (· + front.length) := by
  induction front with
  | nil =>
      rw [List.nil_append, List.length_nil]
      cases firstPlace pattern back <;> rfl
  | cons byte rest ih =>
      have notHere : ¬pattern.isPrefixOf (byte :: (rest ++ back)) = true := by
        rw [List.isPrefixOf_iff_prefix]
        exact nowhere [] (byte :: rest) rfl (List.cons_ne_nil byte rest)
      have later := ih (fun before after split some =>
        nowhere (byte :: before) after (congrArg (byte :: ·) split) some)
      rw [List.cons_append, firstPlace, if_neg notHere, later, Option.map_map]
      rfl

/-- A byte that does not occur in the front is found behind it. -/
theorem find_byte {byte : UInt8} (pos : Nat) (absent : byte ∉ front) (start : Text)
    (length : start.length = pos) :
    find (start ++ front ++ byte :: back) [byte] pos = some (pos + front.length) := by
  have inside : pos ≤ (start ++ front ++ byte :: back).length := by
    simp only [List.length_append]
    omega
  have rest : (start ++ front ++ byte :: back).drop pos = front ++ byte :: back := by
    rw [List.append_assoc, ← length, List.drop_left]
  have here : firstPlace [byte] (byte :: back) = some 0 := firstPlace_here [byte] back
  rw [find, if_pos inside, rest, firstPlace_skip, here]
  · simp only [Option.map_some, Nat.zero_add]
    rw [Nat.add_comm]
  · rintro before after split some ⟨others, same⟩
    cases after with
    | nil => exact some rfl
    | cons first later =>
        have isByte : byte = first := (List.cons.inj same).1
        exact absent (split ▸ List.mem_append_right before (isByte ▸ List.mem_cons_self))

theorem substr_append (start middle rest : Text) :
    substr (start ++ middle ++ rest) start.length middle.length = some middle := by
  have inside : start.length ≤ (start ++ middle ++ rest).length := by
    simp only [List.length_append]
    omega
  rw [substr, if_pos inside, List.append_assoc, List.drop_left, List.take_left]

theorem substr_inside {text : Text} {pos : Nat} (inside : pos ≤ text.length) (count : Nat) :
    ∃ part, substr text pos count = some part :=
  ⟨_, if_pos inside⟩

theorem replace_inside {text : Text} {pos : Nat} (inside : pos ≤ text.length) (count : Nat)
    (other : Text) : ∃ replaced, replace text pos count other = some replaced ∧
      replaced.length = pos + other.length + (text.length - (pos + count)) := by
  refine ⟨_, if_pos inside, ?_⟩
  rw [List.length_append, List.length_append, List.length_take_of_le inside, List.length_drop]

theorem find_zero (text pattern : Text) : find text pattern 0 = firstPlace pattern text := by
  rw [find, if_pos (Nat.zero_le text.length), List.drop_zero]
  cases firstPlace pattern text <;> rfl

/-- A pattern that is found lies within the text. -/
theorem firstPlace_inside {text : Text} {place : Nat}
    (found : firstPlace pattern text = some place) :
    place + pattern.length ≤ text.length := by
  induction text generalizing place with
  | nil =>
      rw [firstPlace] at found
      split at found
      · next empty =>
          cases found
          rw [empty]
          exact Nat.le_refl _
      · cases found
  | cons byte rest ih =>
      rw [firstPlace] at found
      split at found
      · next begins =>
          cases found
          rw [Nat.zero_add]
          exact (List.isPrefixOf_iff_prefix.mp begins).length_le
      · obtain ⟨before, foundBefore, same⟩ := Option.map_eq_some_iff.mp found
        have inside := ih foundBefore
        rw [List.length_cons]
        omega

theorem find_inside {text : Text} {pos place : Nat} (found : find text pattern pos = some place) :
    place + pattern.length ≤ text.length := by
  rw [find] at found
  split at found
  · next inside =>
      obtain ⟨before, foundBefore, same⟩ := Option.map_eq_some_iff.mp found
      have fits := firstPlace_inside foundBefore
      rw [List.length_drop] at fits
      omega
  · cases found

end Searching

/-! ### Tokens -/

/-- Tokens, each with a separator behind it. -/
def terminated (separator : UInt8) (tokens : List Text) : Text :=
  tokens.flatMap (fun token => token ++ [separator])

section Tokens

variable {separator marker : UInt8} {flag name token rest back : Text} {front : List Text}

theorem terminated_cons (separator : UInt8) (token : Text) (tokens : List Text) :
    terminated separator (token :: tokens) =
      token ++ separator :: terminated separator tokens := by
  rw [terminated, List.flatMap_cons, List.append_assoc, List.singleton_append, terminated]

theorem terminated_append (separator : UInt8) (front back : List Text) :
    terminated separator (front ++ back) =
      terminated separator front ++ terminated separator back :=
  List.flatMap_append

/-- Tokens that are joined by separators, and one more behind the last. -/
theorem terminated_joined (separator : UInt8) (token : Text) (tokens : List Text) :
    [separator].intercalate (token :: tokens) ++ [separator] =
      terminated separator (token :: tokens) := by
  induction tokens generalizing token with
  | nil => rw [List.intercalate_singleton, terminated_cons, terminated, List.flatMap_nil]
  | cons next rest ih =>
      rw [List.intercalate_cons_cons, terminated_cons, ← ih next, List.append_assoc,
        List.append_assoc, List.singleton_append]

/-- A whole token begins a row of tokens only where it is the first one. -/
theorem whole_token (noSeparator : separator ∉ flag) (none : separator ∉ token)
    (begins : flag ++ [separator] <+: token ++ separator :: rest) : flag = token := by
  induction flag generalizing token with
  | nil =>
      cases token with
      | nil => rfl
      | cons byte others =>
          obtain ⟨later, same⟩ := begins
          have first : separator = byte := (List.cons.inj same).1
          exact absurd (first ▸ List.mem_cons_self) none
  | cons byte others ih =>
      cases token with
      | nil =>
          obtain ⟨later, same⟩ := begins
          have first : byte = separator := (List.cons.inj same).1
          exact absurd (first ▸ List.mem_cons_self) noSeparator
      | cons first more =>
          rw [List.cons_append, List.cons_append, List.cons_prefix_cons] at begins
          obtain ⟨same, later⟩ := begins
          have equal := ih (fun inside => noSeparator (List.mem_cons_of_mem byte inside))
            (fun inside => none (List.mem_cons_of_mem first inside)) later
          rw [same, equal]

/-- What a token that begins with the marker is not found in: another token, without
separators, that has the marker at most at its start. -/
structure Other (separator marker : UInt8) (flag token : Text) : Prop where
  whole : separator ∉ token
  unmarked : marker ∉ token.tail
  different : flag ≠ token

theorem firstPlace_other (apart : marker ≠ separator) (noSeparator : separator ∉ marker :: name)
    (other : Other separator marker (marker :: name) token) :
    firstPlace (marker :: name ++ [separator]) (token ++ separator :: back) =
      (firstPlace (marker :: name ++ [separator]) back).map (· + (token.length + 1)) := by
  have split : token ++ separator :: back = (token ++ [separator]) ++ back := by
    rw [List.append_assoc, List.singleton_append]
  have skipped : firstPlace (marker :: name ++ [separator]) ((token ++ [separator]) ++ back) =
      (firstPlace (marker :: name ++ [separator]) back).map
        (· + (token ++ [separator]).length) := by
    apply firstPlace_skip
    rintro before after cut some begins
    cases before with
    | nil =>
        rw [List.nil_append] at cut
        rw [← cut, List.append_assoc, List.singleton_append] at begins
        exact other.different (whole_token noSeparator other.whole begins)
    | cons byte earlier =>
        cases after with
        | nil => exact some rfl
        | cons first later =>
            have marked : marker = first := by
              obtain ⟨more, same⟩ := begins
              exact (List.cons.inj same).1
            have inTail : first ∈ (token ++ [separator]).tail := by
              rw [cut]
              exact List.mem_append_right earlier List.mem_cons_self
            cases token with
            | nil => cases inTail
            | cons start others =>
                rcases List.mem_append.mp inTail with inside | last
                · exact other.unmarked (marked ▸ inside)
                · exact apart (marked.trans (List.mem_singleton.mp last))
  rw [split, skipped, List.length_append, List.length_singleton]

/-- A token is looked for behind the other tokens. -/
theorem firstPlace_others (apart : marker ≠ separator) (noSeparator : separator ∉ marker :: name)
    (others : ∀ token ∈ front, Other separator marker (marker :: name) token) :
    firstPlace (marker :: name ++ [separator]) (terminated separator front ++ back) =
      (firstPlace (marker :: name ++ [separator]) back).map
        (· + (terminated separator front).length) := by
  induction front with
  | nil =>
      rw [terminated, List.flatMap_nil, List.nil_append, List.length_nil]
      cases firstPlace (marker :: name ++ [separator]) back <;> rfl
  | cons token rest ih =>
      have later := ih (fun other member => others other (List.mem_cons_of_mem token member))
      have length : (terminated separator (token :: rest)).length =
          (terminated separator rest).length + (token.length + 1) := by
        rw [terminated_cons, List.length_append, List.length_cons]
        omega
      have start : terminated separator (token :: rest) ++ back =
          token ++ separator :: (terminated separator rest ++ back) := by
        rw [terminated_cons, List.append_assoc, List.cons_append]
      rw [start, firstPlace_other apart noSeparator (others token List.mem_cons_self), later,
        Option.map_map, length]
      cases firstPlace (marker :: name ++ [separator]) back with
      | none => rfl
      | some place => exact congrArg some (Nat.add_assoc place _ _)

theorem firstPlace_token (apart : marker ≠ separator) (noSeparator : separator ∉ marker :: name)
    (others : ∀ token ∈ front, Other separator marker (marker :: name) token) (rest : Text) :
    firstPlace (marker :: name ++ [separator])
        (terminated separator front ++ (marker :: name ++ separator :: rest)) =
      some (terminated separator front).length := by
  have split : marker :: name ++ separator :: rest = (marker :: name ++ [separator]) ++ rest := by
    rw [List.append_assoc, List.singleton_append]
  rw [firstPlace_others apart noSeparator others, split, firstPlace_here, Option.map_some,
    Nat.zero_add]

theorem firstPlace_no_token (apart : marker ≠ separator)
    (noSeparator : separator ∉ marker :: name)
    (others : ∀ token ∈ front, Other separator marker (marker :: name) token) :
    firstPlace (marker :: name ++ [separator]) (terminated separator front) = none := by
  rw [← List.append_nil (terminated separator front), firstPlace_others apart noSeparator others]
  rfl

end Tokens

/-! ### Splitting -/

/-- The items between delimiters; nothing follows the last delimiter of a text that it ends. -/
def splitFrom (delimiter : UInt8) (item : Text) : Text → List Text
  | [] => if item = [] then [] else [item]
  | byte :: rest =>
      if byte = delimiter then item :: splitFrom delimiter [] rest
      else splitFrom delimiter (item ++ [byte]) rest

def split (text : Text) (delimiter : UInt8) : List Text := splitFrom delimiter [] text

theorem splitFrom_behind {delimiter : UInt8} {front : Text} (absent : delimiter ∉ front)
    (item rest : Text) :
    splitFrom delimiter item (front ++ delimiter :: rest) =
      (item ++ front) :: splitFrom delimiter [] rest := by
  induction front generalizing item with
  | nil => rw [List.nil_append, splitFrom, if_pos rfl, List.append_nil]
  | cons byte others ih =>
      have different : byte ≠ delimiter := fun same => absent (same ▸ List.mem_cons_self)
      have later := ih (fun inside => absent (List.mem_cons_of_mem byte inside)) (item ++ [byte])
      rw [List.cons_append, splitFrom, if_neg different, later, List.append_assoc,
        List.singleton_append]

theorem splitFrom_ne_nil (delimiter : UInt8) {item text : Text} (some : item ≠ [] ∨ text ≠ []) :
    splitFrom delimiter item text ≠ [] := by
  induction text generalizing item with
  | nil =>
      rw [splitFrom, if_neg (some.resolve_right (fun empty => empty rfl))]
      exact List.cons_ne_nil item []
  | cons byte rest ih =>
      rw [splitFrom]
      split
      · exact List.cons_ne_nil _ _
      · exact ih (Or.inl (List.append_ne_nil_of_right_ne_nil item (List.cons_ne_nil byte [])))

/-! ### Numbers -/

def isDigit (byte : UInt8) : Bool := 48 ≤ byte && byte ≤ 57

def isSpace (byte : UInt8) : Bool := byte = 32 || (9 ≤ byte && byte ≤ 13)

def decimal (digits : Text) : Nat :=
  digits.foldl (fun number digit => 10 * number + (digit.toNat - 48)) 0

/-- Why a text is not read as a number: it begins with none, or with one out of range. -/
inductive NumberProblem where
  | invalidArgument
  | outOfRange
  deriving DecidableEq, Repr

/-- The sign in front of a number, and what follows it. -/
def signed : Text → Bool × Text
  | [] => (false, [])
  | byte :: rest =>
      if byte = 45 then (true, rest)
      else if byte = 43 then (false, rest)
      else (false, byte :: rest)

/-- The number that a text begins with, behind spaces and a sign. -/
def stoi (text : Text) : Except NumberProblem Int32 :=
  let sign := signed (text.dropWhile isSpace)
  let digits := sign.2.takeWhile isDigit
  let number : Int := if sign.1 then -(decimal digits : Int) else decimal digits
  if digits = [] then .error .invalidArgument
  else if number < -2147483648 ∨ 2147483647 < number then .error .outOfRange
  else .ok (Int32.ofInt number)

/-- The number that a text is as a whole: a sign where it has one, and digits. -/
def wholeNumber (text : Text) : Option Int :=
  if (signed text).2 ≠ [] ∧ (signed text).2.all isDigit = true then
    some (if (signed text).1 then -(decimal (signed text).2 : Int) else decimal (signed text).2)
  else none

/-- A number within bounds. -/
def IsNumber (least most : Int) (text : Text) : Prop :=
  ∃ number, wholeNumber text = some number ∧ least ≤ number ∧ number ≤ most

theorem isSpace_of_isDigit {byte : UInt8} (digit : isDigit byte = true) : isSpace byte = false := by
  simp only [isDigit, isSpace, Bool.and_eq_true, decide_eq_true_eq, UInt8.le_iff_toNat_le,
    Bool.or_eq_false_iff, Bool.and_eq_false_iff, decide_eq_false_iff_not] at digit ⊢
  have least : (48 : UInt8).toNat = 48 := rfl
  have most : (13 : UInt8).toNat = 13 := rfl
  refine ⟨?_, Or.inr ?_⟩
  · intro same
    rw [same] at digit
    exact absurd digit.1 (by decide)
  · omega

/-- A number does not begin with a space. -/
theorem dropWhile_of_wholeNumber {text : Text} {number : Int}
    (whole : wholeNumber text = some number) : text.dropWhile isSpace = text := by
  cases text with
  | nil => rfl
  | cons byte rest =>
      have notSpace : isSpace byte = false := by
        by_cases minus : byte = 45
        · rw [minus]
          rfl
        · by_cases plus : byte = 43
          · rw [plus]
            rfl
          · simp only [wholeNumber, signed, if_neg minus, if_neg plus] at whole
            split at whole
            · next digits =>
                exact isSpace_of_isDigit (List.all_eq_true.mp digits.2 byte List.mem_cons_self)
            · cases whole
      exact List.dropWhile_cons_of_neg (by rw [notSpace]; exact Bool.false_ne_true)

/-- A number is read as such where it is in the range of the result. -/
theorem stoi_of_wholeNumber {text : Text} {number : Int}
    (whole : wholeNumber text = some number) (least : -2147483648 ≤ number)
    (most : number ≤ 2147483647) : stoi text = .ok (Int32.ofInt number) := by
  have start := dropWhile_of_wholeNumber whole
  rw [wholeNumber] at whole
  split at whole
  · next digits =>
      have all : (signed text).2.takeWhile isDigit = (signed text).2 :=
        List.takeWhile_eq_self_iff.mpr (List.all_eq_true.mp digits.2)
      cases whole
      rw [stoi, start]
      simp only [all, if_neg digits.1]
      rw [if_neg (by omega)]
  · cases whole

/-- Digits alone are the number that they name. -/
theorem wholeNumber_of_digits {text : Text} (some : text ≠ [])
    (digits : ∀ byte ∈ text, isDigit byte = true) :
    wholeNumber text = Option.some (decimal text : Int) := by
  cases text with
  | nil => exact absurd rfl some
  | cons byte rest =>
      have first := digits byte List.mem_cons_self
      have minus : byte ≠ 45 := by
        intro same
        rw [same] at first
        exact absurd first (by decide)
      have plus : byte ≠ 43 := by
        intro same
        rw [same] at first
        exact absurd first (by decide)
      have both : byte :: rest ≠ [] ∧ (byte :: rest).all isDigit = true :=
        ⟨some, List.all_eq_true.mpr digits⟩
      simp only [wholeNumber, signed, if_neg minus, if_neg plus, if_pos both,
        Bool.false_eq_true, if_false]

end Bytes
end SpotExchange
