import LevelForge.Ldl.Parser

/-!
# Reading lists of tokens

Reading, said of the list of the tokens that are still to be read: nothing is looked at and nothing
is taken, a reading gives what was read and the rest of the list. All constructs are read before the
first of them has its effect.

* `readConstructs`: the constructs of a list of tokens, and the token at which reading stops.
* `fill`: the effect of a token stream on a blueprint.
-/

namespace LevelForge.Ldl

/-! ## Lists of tokens -/

/-- The next token, if it is of the given kind, and the tokens behind it. -/
def expect (stop : Position) (kind : TokenKind) :
    List Token → Except Unexpected (Token × List Token)
  | [] => .error ⟨.endOfText stop, kind⟩
  | t :: rest => if t.kind = kind then .ok (t, rest) else .error ⟨t, kind⟩

/-- The symbols of the rest of a row, and the tokens behind its closing brace. -/
def readRow (stop : Position) : List Token → Except Unexpected (List String × List Token)
  | [] => .error ⟨.endOfText stop, .closing⟩
  | t :: rest =>
    if t.kind = .raw then
      match readRow stop rest with
      | .error fault => .error fault
      | .ok (row, behind) => .ok (t.text :: row, behind)
    else if t.kind = .closing then .ok ([], rest)
    else .error ⟨t, .closing⟩

/-- What is behind a row is shorter than what is before it. -/
theorem length_lt_of_readRow {stop : Position} {tokens behind : List Token} {row : List String}
    (h : readRow stop tokens = .ok (row, behind)) : behind.length < tokens.length := by
  induction tokens generalizing row with
  | nil => simp [readRow] at h
  | cons t rest ih =>
    unfold readRow at h
    split at h
    · split at h
      · cases h
      · next row' behind' hrow =>
        cases h
        exact Nat.lt_succ_of_lt (ih hrow)
    · split at h
      · cases h
        exact Nat.lt_succ_self _
      · cases h

/-- The rows of the rest of a block, and the tokens behind its closing brace. -/
def readRows (stop : Position) (tokens : List Token) :
    Except Unexpected (List (List String) × List Token) :=
  match tokens with
  | [] => .error ⟨.endOfText stop, .closing⟩
  | t :: rest =>
    if t.kind = .opening then
      match _h : readRow stop rest with
      | .error fault => .error fault
      | .ok (row, behind) =>
        match readRows stop behind with
        | .error fault => .error fault
        | .ok (rows, behind') => .ok (row :: rows, behind')
    else if t.kind = .closing then .ok ([], rest)
    else .error ⟨t, .closing⟩
termination_by tokens.length
decreasing_by exact Nat.lt_succ_of_lt (length_lt_of_readRow ‹_›)

/-- What is behind a block is shorter than what is before it. -/
theorem length_lt_of_readRows {stop : Position} {tokens behind : List Token}
    {rows : List (List String)} (h : readRows stop tokens = .ok (rows, behind)) :
    behind.length < tokens.length := by
  fun_induction readRows stop tokens generalizing rows behind with
  | case1 => cases h
  | case2 => cases h
  | case3 => cases h
  | case4 t rest _ row behind' hrow rows' behind'' _ ih =>
    cases h
    exact Nat.lt_trans (ih (by assumption)) (Nat.lt_succ_of_lt (length_lt_of_readRow hrow))
  | case5 t rest => cases h; exact Nat.lt_succ_self _
  | case6 => cases h

/-- The body of a directive, and the tokens behind it. -/
def readBody (stop : Position) (tokens : List Token) :
    Except Unexpected (String × List Token) := do
  let (_, rest) ← expect stop .delimiter tokens
  let (body, behind) ← expect stop .mapping rest
  return (body.text, behind)

/-- What is behind an expected token is shorter than what is before it. -/
theorem length_lt_of_expect {stop : Position} {kind : TokenKind} {tokens behind : List Token}
    {t : Token} (h : expect stop kind tokens = .ok (t, behind)) :
    behind.length < tokens.length := by
  unfold expect at h
  split at h
  · cases h
  · split at h
    · cases h; exact Nat.lt_succ_self _
    · cases h

/-- What is behind a body is shorter than what is before it. -/
theorem length_lt_of_readBody {stop : Position} {tokens behind : List Token} {body : String}
    (h : readBody stop tokens = .ok (body, behind)) : behind.length < tokens.length := by
  unfold readBody at h
  cases h₁ : expect stop .delimiter tokens with
  | error fault => simp [h₁, bind, Except.bind] at h
  | ok first =>
    cases h₂ : expect stop .mapping first.2 with
    | error fault => simp [h₁, h₂, bind, Except.bind] at h
    | ok second =>
      simp only [h₁, h₂, bind, Except.bind, pure, Except.pure, Except.ok.injEq,
        Prod.mk.injEq] at h
      rw [← h.2]
      exact Nat.lt_trans (length_lt_of_expect h₂) (length_lt_of_expect h₁)

/-- The complete constructs of a text, and why reading stopped before its end if it did. -/
def readConstructs (stop : Position) (tokens : List Token) :
    List Construct × Option Unexpected :=
  match tokens with
  | [] => ([], none)
  | t :: rest =>
    match Directive.ofTokenKind? t.kind with
    | some directive =>
      match _h : readBody stop rest with
      | .error fault => ([], some fault)
      | .ok (body, behind) =>
        let others := readConstructs stop behind
        (.directive directive body :: others.1, others.2)
    | none =>
      if t.kind = .opening then
        match _h : readRows stop rest with
        | .error fault => ([], some fault)
        | .ok (rows, behind) =>
          let others := readConstructs stop behind
          (.block t.position.line rows :: others.1, others.2)
      else ([], some ⟨t, .endOfText⟩)
termination_by tokens.length
decreasing_by
  · exact Nat.lt_succ_of_lt (length_lt_of_readBody ‹_›)
  · exact Nat.lt_succ_of_lt (length_lt_of_readRows ‹_›)

/-- The complete constructs of a token stream, and why reading stopped before its end if it
did. -/
def TokenStream.constructs (s : TokenStream) : List Construct × Option Unexpected :=
  readConstructs s.stop s.pending

/-- The effect of constructs in order, up to the first that is rejected. -/
def applyConstructs (b : Blueprint) : List Construct → Blueprint × Option Failure
  | [] => (b, none)
  | construct :: rest =>
    match applyConstruct b construct with
    | .error failure => (b, some failure)
    | .ok b' => applyConstructs b' rest

/-- The effect of a token stream on a blueprint, and why it was not read to its end if it was
not. -/
def fill (b : Blueprint) (stream : TokenStream) : Blueprint × Option Failure :=
  let (constructs, stopped) := stream.constructs
  match applyConstructs b constructs with
  | (b', some failure) => (b', some failure)
  | (b', none) => (b', stopped.map .unexpected)

end LevelForge.Ldl
