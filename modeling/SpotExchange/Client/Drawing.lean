/-
The picture of a book: a heading for each side, placed by the width of the terminal, and five
rows of prices and sizes. Drawing ends the client where a name does not end within its eight
bytes, or where a position lies behind a line.
-/

import Mathlib.Data.List.Sort
import SpotExchange.Bytes.Text
import SpotExchange.Client.FeedHandler
import SpotExchange.Machine.Run
import SpotExchange.Util.EightBytes

namespace SpotExchange
namespace Client

open Bytes Engine Machine Util

/-! ### What ends the client -/

/-- A fault of the feed handler, a null pointer, a pointer to a book that has moved, a name of
which more than eight bytes are read, an element that a vector has not, a position behind the
end of a string, a number that is not one. -/
inductive ClientFault where
  | feed (fault : Fault)
  | nullOrder (orderId : OrderId)
  | staleBook (index : Nat)
  | overread (name : UInt64)
  | element (index : Nat)
  | position (pos : Nat)
  | number (problem : NumberProblem)
  deriving DecidableEq, Repr

def subText (text : Text) (pos count : Nat) : Except ClientFault Text :=
  match substr text pos count with
  | none => .error (.position pos)
  | some part => .ok part

def replaceText (text : Text) (pos count : Nat) (other : Text) : Except ClientFault Text :=
  match replace text pos count other with
  | none => .error (.position pos)
  | some replaced => .ok replaced

def readName (bytes : UInt64) : Except ClientFault Text :=
  match convertEightBytesToString bytes with
  | none => .error (.overread bytes)
  | some name => .ok name

theorem subText_inside {text : Text} {pos : Nat} (inside : pos ≤ text.length) (count : Nat) :
    ∃ part, subText text pos count = .ok part := by
  obtain ⟨part, found⟩ := substr_inside inside count
  refine ⟨part, ?_⟩
  rw [subText, found]

theorem replaceText_inside {text : Text} {pos : Nat} (inside : pos ≤ text.length) (count : Nat)
    (other : Text) : ∃ replaced, replaceText text pos count other = .ok replaced ∧
      replaced.length = pos + other.length + (text.length - (pos + count)) := by
  obtain ⟨replaced, found, length⟩ := replace_inside inside count other
  refine ⟨replaced, ?_, length⟩
  rw [replaceText, found]

theorem replaceText_outside {text : Text} {pos : Nat} (outside : text.length < pos) (count : Nat)
    (other : Text) : replaceText text pos count other = .error (.position pos) := by
  rw [replaceText, replace, if_neg (Nat.not_le_of_lt outside)]

/-! ### The picture of a book -/

namespace ClientOrderBook

/-- The entries of a side, by ascending prices. -/
def levels (sizes : Sizes) : List (Price × Int64) :=
  (sizes.keys.insertionSort (· ≤ ·)).map (fun price => (price, (sizes.lookup price).getD 0))

def entry (level : Price × Int64) : Text :=
  literal "£" ++ literal (toString level.1.toNat) ++ literal ": " ++
    literal (toString level.2.toInt)

def blank (width : Nat) : Text := List.replicate width 32

/-- Where the bids are headed, with a heading of so many characters. Positions are truncated;
the products of doubles reach no other integer for a width of sixteen bits. -/
def bidPosn (width length : Nat) : Nat := (5 * (width / 2) - width) / 5 + length / 4

def askPosn (width length : Nat) : Nat := (10 * (width / 2) + width) / 10 + length / 4

def drawBid (width bidPosn : Nat) : List (Price × Int64) → Except ClientFault Text
  | [] => .ok (blank width)
  | level :: _ =>
      replaceText (blank width) bidPosn ((entry level).length - 1) (entry level)

/-- An ask stands one place further left where there is no bid beside it. -/
def drawAsk (line : Text) (askPosn : Nat) (alone : Bool) :
    List (Price × Int64) → Except ClientFault Text
  | [] => .ok line
  | level :: _ =>
      replaceText line (if alone then askPosn - 1 else askPosn) (entry level).length (entry level)

/-- So many rows. -/
def drawRows (width bidPosn askPosn : Nat) :
    Nat → List (Price × Int64) → List (Price × Int64) → Except ClientFault (List Text)
  | 0, _, _ => .ok []
  | rows + 1, bids, asks => do
      let bidLine ← drawBid width bidPosn bids
      let line ← drawAsk bidLine askPosn bids.isEmpty asks
      let rest ← drawRows width bidPosn askPosn rows bids.tail asks.tail
      return line :: rest

/-- What is printed of a book, but for the colours. -/
def draw (book : ClientOrderBook) (width : Nat) : Except ClientFault (List Text) := do
  let tkr ← readName book.ticker
  let bidstr := literal "=== " ++ tkr ++ literal " BIDS ==="
  let askstr := literal "=== " ++ tkr ++ literal " ASKS ==="
  let bidPosn := bidPosn width bidstr.length
  let askPosn := askPosn width askstr.length
  let bidLine ← replaceText (blank width) bidPosn bidstr.length bidstr
  let line ← replaceText bidLine askPosn askstr.length askstr
  let bids ← subText line 0 (askPosn - 1)
  let asks ← subText line askPosn (line.length - askPosn)
  let rows ← drawRows width (bidPosn - 1) (askPosn - 1) 5 (levels book.bids).reverse
    (levels book.asks)
  return (bids ++ asks) :: rows

/-! ### Books that can be drawn -/

/-- How wide a terminal must be for a name of so many characters. -/
def leastWidth (length : Nat) : Nat := if length ≤ 2 then 3 else if length ≤ 6 then 5 else 6

/-- The name ends within its eight bytes, and the terminal is wide enough for it. -/
def Drawable (width : Nat) (book : ClientOrderBook) : Prop :=
  ∃ name, convertEightBytesToString book.ticker = some name ∧ leastWidth name.length ≤ width

section Drawing

variable {width : Nat} {line : Text}

@[simp]
theorem blank_length (width : Nat) : (blank width).length = width := List.length_replicate

/-- A heading fits exactly where the terminal is wide enough. -/
theorem bidPosn_le_iff {length : Nat} (short : length < 8) :
    bidPosn width (length + 13) ≤ width ↔ leastWidth length ≤ width := by
  unfold bidPosn leastWidth
  split
  · omega
  · split <;> omega

/-- The asks are headed at most two places behind a line in which the bids are. -/
theorem askPosn_le {length : Nat} (short : length < 8)
    (fits : bidPosn width (length + 13) ≤ width) : askPosn width (length + 13) ≤ width + 2 := by
  unfold bidPosn at fits
  unfold askPosn
  omega

theorem entry_some (level : Price × Int64) : 1 ≤ (entry level).length := by
  rw [entry, List.append_assoc, List.append_assoc, List.length_append]
  exact Nat.le_add_right_of_le (by decide)

/-- A bid lengthens its row by the place that is not replaced. -/
theorem drawBid_returns {bidPosn : Nat} (inside : bidPosn ≤ width)
    (bids : List (Price × Int64)) : ∃ line, drawBid width bidPosn bids = .ok line ∧
      width + (if bids.isEmpty then 0 else 1) ≤ line.length := by
  cases bids with
  | nil => exact ⟨blank width, rfl, Nat.le_of_eq (blank_length width).symm⟩
  | cons level rest =>
      have within : bidPosn ≤ (blank width).length := by
        rw [blank_length]
        exact inside
      obtain ⟨line, drawn, length⟩ :=
        replaceText_inside within ((entry level).length - 1) (entry level)
      refine ⟨line, drawn, ?_⟩
      have some := entry_some level
      rw [length, blank_length, List.isEmpty_cons, if_neg Bool.false_ne_true]
      omega

theorem drawAsk_returns {askPosn : Nat} {alone : Bool} (inside : askPosn ≤ width + 1)
    (long : width + (if alone then 0 else 1) ≤ line.length) (asks : List (Price × Int64)) :
    ∃ drawn, drawAsk line askPosn alone asks = .ok drawn := by
  cases asks with
  | nil => exact ⟨line, rfl⟩
  | cons level rest =>
      have within : (if alone then askPosn - 1 else askPosn) ≤ line.length := by
        cases alone with
        | false => exact Nat.le_trans inside long
        | true => exact Nat.le_trans (Nat.sub_le_of_le_add inside) long
      obtain ⟨drawn, draws, -⟩ := replaceText_inside within (entry level).length (entry level)
      exact ⟨drawn, draws⟩

theorem drawRows_returns {bidPosn askPosn : Nat} (bidInside : bidPosn ≤ width)
    (askInside : askPosn ≤ width + 1) (rows : Nat) (bids asks : List (Price × Int64)) :
    ∃ lines, drawRows width bidPosn askPosn rows bids asks = .ok lines ∧ lines.length = rows := by
  induction rows generalizing bids asks with
  | zero => exact ⟨[], rfl, rfl⟩
  | succ rows ih =>
      obtain ⟨bidLine, drawnBid, long⟩ := drawBid_returns bidInside bids
      obtain ⟨line, drawnAsk⟩ := drawAsk_returns askInside long asks
      obtain ⟨rest, drawn, length⟩ := ih bids.tail asks.tail
      refine ⟨line :: rest, ?_, congrArg (· + 1) length⟩
      rw [drawRows, drawnBid, ok_bind, drawnAsk, ok_bind, drawn]
      rfl

variable {book : ClientOrderBook} {name : Text}

/-- The two headings of a name are as long. -/
theorem heading_length (name side : Text) (four : side.length = 9) :
    (literal "=== " ++ name ++ side).length = name.length + 13 := by
  rw [List.length_append, List.length_append, four]
  have begins : (literal "=== ").length = 4 := by decide
  omega

/-- A name that ends within its eight bytes has fewer characters. -/
theorem named_short {bytes : UInt64} (named : convertEightBytesToString bytes = some name) :
    name.length < 8 := by
  have fits := cString_short named
  rw [littleEndian_length] at fits
  exact fits

/-- A heading and five rows are printed of a book that can be drawn. -/
theorem draw_returns (drawable : book.Drawable width) :
    ∃ lines, book.draw width = .ok lines ∧ lines.length = 6 := by
  obtain ⟨name, named, wide⟩ := drawable
  have short := named_short named
  have read : readName book.ticker = .ok name := by rw [readName, named]
  have bidInside := (bidPosn_le_iff short).mpr wide
  have askInside := askPosn_le short bidInside
  have askBefore : askPosn width (name.length + 13) - 1 ≤ width + 1 := by omega
  have bidLength := heading_length name (literal " BIDS ===") (by decide)
  have askLength := heading_length name (literal " ASKS ===") (by decide)
  have within : bidPosn width (name.length + 13) ≤ (blank width).length := by
    rw [blank_length]
    exact bidInside
  obtain ⟨bidLine, headsBids, bidLong⟩ := replaceText_inside within (name.length + 13)
    (literal "=== " ++ name ++ literal " BIDS ===")
  rw [bidLength, blank_length] at bidLong
  have beside : askPosn width (name.length + 13) ≤ bidLine.length := by
    rw [bidLong]
    unfold askPosn at askInside ⊢
    unfold bidPosn at bidInside ⊢
    omega
  obtain ⟨line, headsAsks, askLong⟩ := replaceText_inside beside (name.length + 13)
    (literal "=== " ++ name ++ literal " ASKS ===")
  have inLine : askPosn width (name.length + 13) ≤ line.length := by
    rw [askLong]
    omega
  obtain ⟨bids, cutBids⟩ :=
    subText_inside (Nat.zero_le line.length) (askPosn width (name.length + 13) - 1)
  obtain ⟨asks, cutAsks⟩ := subText_inside inLine (line.length - askPosn width (name.length + 13))
  obtain ⟨rows, drawn, five⟩ := drawRows_returns
    (Nat.le_trans (Nat.sub_le _ 1) bidInside)
    askBefore 5 (levels book.bids).reverse (levels book.asks)
  refine ⟨(bids ++ asks) :: rows, ?_, congrArg (· + 1) five⟩
  rw [draw, read, ok_bind]
  simp only [bidLength, askLength]
  rw [headsBids, ok_bind, headsAsks, ok_bind, cutBids, ok_bind, cutAsks, ok_bind, drawn]
  rfl

/-- Drawing returns for no other book. -/
theorem draw_iff : (∃ lines, book.draw width = .ok lines) ↔ book.Drawable width := by
  constructor
  · rintro ⟨lines, returned⟩
    obtain ⟨name, read, rest⟩ := bind_eq_ok returned
    have named : convertEightBytesToString book.ticker = some name := by
      unfold readName at read
      split at read
      · cases read
      · next found =>
          cases read
          exact found
    have short := named_short named
    refine ⟨name, named, (bidPosn_le_iff short).mp ?_⟩
    by_contra outside
    obtain ⟨bidLine, headsBids, -⟩ := bind_eq_ok rest
    rw [heading_length name (literal " BIDS ===") (by decide), replaceText_outside] at headsBids
    · cases headsBids
    · rw [blank_length]
      exact Nat.lt_of_not_le outside
  · intro drawable
    obtain ⟨lines, drawn, -⟩ := draw_returns drawable
    exact ⟨lines, drawn⟩

end Drawing

end ClientOrderBook

end Client
end SpotExchange
