import LevelForge.Ldl.Lexer

/-!
# Constructs

A level text is a sequence of constructs: a directive with its body, or a block of rows, each row
a sequence of raw tokens in braces. A reader looks one token ahead and takes it when it is of the
kind that the construct asks for; a token of another kind is not taken.

* `Reader`: a place in a token stream, with the token looked at there.
* `Reader.Outcome`: what came of reading something, and the place where the reading ended.
* `Reader.construct?`: read the construct that the token looked at begins.
-/

namespace LevelForge.Ldl

/-- One construct of a level text. -/
inductive Construct where
  | directive (directive : Directive) (body : String)
  -- a block: the line of its opening brace and the symbols of its rows
  | block (line : Nat) (rows : List (List String))
  deriving DecidableEq, Repr

/-- A token where another kind was expected. -/
structure Unexpected where
  found : Token
  expected : TokenKind
  deriving DecidableEq, Repr

/-- What is said about an unexpected token. -/
def Unexpected.message (fault : Unexpected) : String :=
  s!"Expected {fault.expected.name} but found {fault.found.describe} " ++
  s!"at line {fault.found.position.line}, column {fault.found.position.column}"

/-- A place in a token stream: the token that is looked at, and the tokens behind it. -/
structure Reader where
  lookAhead : Token
  unread : TokenStream
  deriving DecidableEq, Repr

namespace Reader

/-- The reader at the start of a stream. -/
def ofStream (s : TokenStream) : Reader := ⟨s.peek, s.advance⟩

/-- The reader behind the token that is looked at. -/
def next (r : Reader) : Reader := ofStream r.unread

/-- What came of reading something, and where the reading ended. -/
inductive Outcome (α : Type) where
  | read (value : α) (reader : Reader)
  -- the token looked at is not of the kind that was expected
  | stopped (fault : Unexpected) (reader : Reader)

namespace Outcome

variable {α β : Type}

/-- Where a reading ended. -/
def reader : Outcome α → Reader
  | .read _ r => r
  | .stopped _ r => r

/-- Change what was read. -/
def map (f : α → β) : Outcome α → Outcome β
  | .read value r => .read (f value) r
  | .stopped fault r => .stopped fault r

/-- What is made of a reading ends where the reading ends. -/
@[simp]
theorem reader_map (f : α → β) (o : Outcome α) : (o.map f).reader = o.reader := by
  cases o <;> rfl

end Outcome

/-- Take the token that is looked at, if it is of the given kind. -/
def expect (r : Reader) (kind : TokenKind) : Outcome Token :=
  if r.lookAhead.kind = kind then .read r.lookAhead r.next else .stopped ⟨r.lookAhead, kind⟩ r

/-- The number of tokens before the end of the text. -/
def left (r : Reader) : Nat :=
  r.unread.pending.length + if r.lookAhead.kind = .endOfText then 0 else 1

/-- A token that is not the end of the text is taken once. -/
theorem left_next_lt {r : Reader} (h : r.lookAhead.kind ≠ .endOfText) : r.next.left < r.left := by
  obtain ⟨t, ⟨pending, stop⟩⟩ := r
  rw [left, left, if_neg h]
  cases pending with
  | nil => simp [next, ofStream, TokenStream.peek, TokenStream.advance, Token.endOfText]
  | cons t' rest =>
    show rest.length + (if t'.kind = .endOfText then 0 else 1) < rest.length + 1 + 1
    split <;> omega

/-- Going on leaves no more tokens than there were. -/
theorem left_next_le (r : Reader) : r.next.left ≤ r.left := by
  by_cases h : r.lookAhead.kind = .endOfText
  · obtain ⟨t, ⟨pending, stop⟩⟩ := r
    rw [left, left, if_pos h]
    cases pending with
    | nil => simp [next, ofStream, TokenStream.peek, TokenStream.advance, Token.endOfText]
    | cons t' rest =>
      show rest.length + (if t'.kind = .endOfText then 0 else 1) ≤ rest.length + 1 + 0
      split <;> omega
  · exact Nat.le_of_lt (left_next_lt h)

/-- No token comes back. -/
theorem left_expect_le {r : Reader} {kind : TokenKind} {o : Outcome Token}
    (h : r.expect kind = o) : o.reader.left ≤ r.left := by
  rw [expect] at h
  split at h
  · cases h
    exact left_next_le r
  · cases h
    exact Nat.le_refl _

/-- Read the symbols of the rest of a row, and its closing brace. -/
def row (r : Reader) : Outcome (List String) :=
  if _h : r.lookAhead.kind = .raw then r.next.row.map (r.lookAhead.text :: ·)
  else (r.expect .closing).map fun _ => []
termination_by r.left
decreasing_by exact left_next_lt (by simp [_h])

/-- A row leaves no more tokens than there were. -/
theorem left_row_le {r : Reader} {o : Outcome (List String)} (h : r.row = o) :
    o.reader.left ≤ r.left := by
  subst h
  fun_induction row r with
  | case1 r hraw ih =>
    rw [Outcome.reader_map]
    exact Nat.le_trans ih (left_next_le r)
  | case2 r hraw =>
    rw [Outcome.reader_map]
    exact left_expect_le rfl

/-- Read the rows of the rest of a block, and its closing brace. -/
def rows (r : Reader) : Outcome (List (List String)) :=
  if _h : r.lookAhead.kind = .opening then
    match _hrow : r.next.row with
    | .stopped fault behind => .stopped fault behind
    | .read row behind => behind.rows.map (row :: ·)
  else (r.expect .closing).map fun _ => []
termination_by r.left
decreasing_by exact Nat.lt_of_le_of_lt (left_row_le _hrow) (left_next_lt (by simp [_h]))

/-- The rows of a block leave no more tokens than there were. -/
theorem left_rows_le {r : Reader} {o : Outcome (List (List String))} (h : r.rows = o) :
    o.reader.left ≤ r.left := by
  subst h
  fun_induction rows r with
  | case1 r hopening fault behind hrow =>
    exact Nat.le_trans (left_row_le hrow) (left_next_le r)
  | case2 r hopening row behind hrow ih =>
    rw [Outcome.reader_map]
    exact Nat.le_trans ih (Nat.le_trans (left_row_le hrow) (left_next_le r))
  | case3 r hopening =>
    rw [Outcome.reader_map]
    exact left_expect_le rfl

/-- Read the two colons and the body of a directive. -/
def body (r : Reader) : Outcome String :=
  match r.expect .delimiter with
  | .stopped fault behind => .stopped fault behind
  | .read _ behind => (behind.expect .mapping).map Token.text

/-- The body of a directive leaves no more tokens than there were. -/
theorem left_body_le {r : Reader} {o : Outcome String} (h : r.body = o) :
    o.reader.left ≤ r.left := by
  rw [body] at h
  split at h
  · next hcolons =>
    cases h
    exact left_expect_le hcolons
  · next behind hcolons =>
    cases h
    rw [Outcome.reader_map]
    exact Nat.le_trans (left_expect_le rfl) (left_expect_le hcolons)

/-- Read the construct that the token looked at begins, if it begins one. -/
def construct? (r : Reader) : Option (Outcome Construct) :=
  match Directive.ofTokenKind? r.lookAhead.kind with
  | some directive => some (r.next.body.map (.directive directive))
  | none =>
    if r.lookAhead.kind = .opening then some (r.next.rows.map (.block r.lookAhead.position.line))
    else none

/-- A construct takes a token at least. -/
theorem left_construct_lt {r : Reader} {o : Outcome Construct} (h : r.construct? = some o) :
    o.reader.left < r.left := by
  have hnext : r.lookAhead.kind ≠ .endOfText := by
    intro hend
    simp [construct?, hend, Directive.ofTokenKind?] at h
  rw [construct?] at h
  split at h
  · cases h
    rw [Outcome.reader_map]
    exact Nat.lt_of_le_of_lt (left_body_le rfl) (left_next_lt hnext)
  · split at h
    · cases h
      rw [Outcome.reader_map]
      exact Nat.lt_of_le_of_lt (left_rows_le rfl) (left_next_lt hnext)
    · cases h

end Reader

end LevelForge.Ldl
