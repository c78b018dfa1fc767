import LevelForge.Proofs.Ldl.TokenList
import LevelForge.Proofs.Ldl.Layout

/-!
# Places

Tokens know where they stand in a text, and so do the constructs and the failures that come from
them. Leaving the places out commutes with reading: the effect of a text is that of its tokens
without places, and a failure is the same up to the line and the column that it names.

* `Failure.unplaced`: a failure without its places.
* `fill_unplaced`: the effect of a token stream without places.
* `unplaced_ofText_eq`: without places the tokens of a text are those of its lexemes.
-/

namespace LevelForge.Ldl

/-! ## Leaving places out -/

/-- A token without its place. -/
def Token.unplaced (t : Token) : Token := { t with position := {} }

/-- An unexpected token without its place. -/
def Unexpected.unplaced (fault : Unexpected) : Unexpected := ⟨fault.found.unplaced, fault.expected⟩

/-- A construct without its place. -/
def Construct.unplaced : Construct → Construct
  | .directive d body => .directive d body
  | .block _ rows => .block ({} : Position).line rows

/-- A failure without the places that it names. -/
def Failure.unplaced : Failure → Failure
  | .unexpected fault => .unexpected fault.unplaced
  | .mapping body fault => .mapping body fault
  | .ragged fault _ => .ragged fault ({} : Position).line
  | .refused refusal => .refused refusal
  | .noBlueprint => .noBlueprint

/-- A token stream without the places of its tokens. -/
def TokenStream.unplaced (s : TokenStream) : TokenStream := ⟨s.pending.map Token.unplaced, {}⟩

/-- What was read from the front of some tokens, without places. -/
def unplacedRead {α : Type} :
    Except Unexpected (α × List Token) → Except Unexpected (α × List Token)
  | .error fault => .error fault.unplaced
  | .ok (read, behind) => .ok (read, behind.map Token.unplaced)

@[simp]
theorem Token.kind_unplaced (t : Token) : t.unplaced.kind = t.kind := rfl

@[simp]
theorem Token.text_unplaced (t : Token) : t.unplaced.text = t.text := rfl

@[simp]
theorem unplacedRead_error {α : Type} (fault : Unexpected) :
    unplacedRead (.error fault : Except Unexpected (α × List Token)) = .error fault.unplaced := rfl

@[simp]
theorem unplacedRead_ok {α : Type} (read : α) (behind : List Token) :
    unplacedRead (.ok (read, behind)) = .ok (read, behind.map Token.unplaced) := rfl

/-! ## Reading -/

section Reading

variable (stop : Position) (tokens : List Token)

/-- Without places the same row is read. -/
theorem readRow_unplaced :
    readRow {} (tokens.map Token.unplaced) = unplacedRead (readRow stop tokens) := by
  induction tokens with
  | nil => rfl
  | cons t rest ih =>
    rw [List.map_cons, readRow, readRow, Token.kind_unplaced, ih]
    by_cases hraw : t.kind = .raw
    · rw [if_pos hraw, if_pos hraw]
      cases readRow stop rest <;> rfl
    · rw [if_neg hraw, if_neg hraw]
      by_cases hclosing : t.kind = .closing
      · rw [if_pos hclosing, if_pos hclosing]
        rfl
      · rw [if_neg hclosing, if_neg hclosing]
        rfl

/-- Without places the same rows are read. -/
theorem readRows_unplaced :
    readRows {} (tokens.map Token.unplaced) = unplacedRead (readRows stop tokens) := by
  fun_induction readRows stop tokens with
  | case1 => rw [List.map_nil, readRows]; rfl
  | case2 t rest hopening fault hrow =>
    rw [List.map_cons, readRows, Token.kind_unplaced, if_pos hopening, readRow_unplaced stop, hrow]
    rfl
  | case3 t rest hopening row behind hrow fault hrows ih =>
    rw [List.map_cons, readRows, Token.kind_unplaced, if_pos hopening, readRow_unplaced stop, hrow]
    simp [ih, hrows]
  | case4 t rest hopening row behind hrow rows behind' hrows ih =>
    rw [List.map_cons, readRows, Token.kind_unplaced, if_pos hopening, readRow_unplaced stop, hrow]
    simp [ih, hrows]
  | case5 t rest hopening hclosing =>
    rw [List.map_cons, readRows, Token.kind_unplaced, if_neg hopening, if_pos hclosing]
    rfl
  | case6 t rest hopening hclosing =>
    rw [List.map_cons, readRows, Token.kind_unplaced, if_neg hopening, if_neg hclosing]
    rfl

/-- Without places the same token is expected. -/
theorem expect_unplaced (kind : TokenKind) :
    expect {} kind (tokens.map Token.unplaced) =
      match expect stop kind tokens with
      | .error fault => .error fault.unplaced
      | .ok (t, behind) => .ok (t.unplaced, behind.map Token.unplaced) := by
  cases tokens with
  | nil => rfl
  | cons t rest =>
    rw [List.map_cons, expect, expect, Token.kind_unplaced]
    by_cases hkind : t.kind = kind
    · rw [if_pos hkind, if_pos hkind]
    · rw [if_neg hkind, if_neg hkind]
      rfl

/-- Without places the same body is read. -/
theorem readBody_unplaced :
    readBody {} (tokens.map Token.unplaced) = unplacedRead (readBody stop tokens) := by
  rw [readBody, readBody, expect_unplaced stop]
  cases expect stop .delimiter tokens with
  | error fault => rfl
  | ok first =>
    show (expect {} .mapping (first.2.map Token.unplaced) >>= _) = _
    rw [expect_unplaced stop]
    cases h : expect stop .mapping first.2 <;> simp [h, bind, Except.bind, pure, Except.pure]

/-- Without places the same constructs are read, and reading stops for the same reason. -/
theorem readConstructs_unplaced :
    readConstructs {} (tokens.map Token.unplaced) =
      ((readConstructs stop tokens).1.map Construct.unplaced,
        (readConstructs stop tokens).2.map Unexpected.unplaced) := by
  fun_induction readConstructs stop tokens with
  | case1 => rw [List.map_nil, readConstructs]; rfl
  | case2 t rest d hd fault hbody =>
    rw [List.map_cons, readConstructs, Token.kind_unplaced]
    simp only [hd]
    rw [readBody_unplaced stop, hbody]
    rfl
  | case3 t rest d hd body behind hbody others ih =>
    rw [List.map_cons, readConstructs, Token.kind_unplaced]
    simp only [hd]
    rw [readBody_unplaced stop, hbody]
    simp only [unplacedRead_ok]
    rw [ih]
    simp only [List.map_cons]
    rfl
  | case4 t rest hd hopening fault hrows =>
    rw [List.map_cons, readConstructs, Token.kind_unplaced]
    simp only [hd, if_pos hopening]
    rw [readRows_unplaced stop, hrows]
    rfl
  | case5 t rest hd hopening rows behind hrows others ih =>
    rw [List.map_cons, readConstructs, Token.kind_unplaced]
    simp only [hd, if_pos hopening]
    rw [readRows_unplaced stop, hrows]
    simp only [unplacedRead_ok]
    rw [ih]
    simp only [List.map_cons]
    rfl
  | case6 t rest hd hopening =>
    rw [List.map_cons, readConstructs, Token.kind_unplaced]
    simp only [hd, if_neg hopening]
    rfl

end Reading

/-! ## Effects -/

/-- A rejected mapping names no place. -/
theorem mapError_unplaced_applyMapping (b : Blueprint) (d : Directive) (body : String)
    (m : Mapping) :
    (applyMapping b d body m).mapError Failure.unplaced = applyMapping b d body m := by
  match d with
  | .alias =>
    rw [applyMapping]
    cases b.setAlias m.key m.value <;> rfl
  | .setting =>
    rw [applyMapping]
    cases b.setSetting m.key m.value <;> rfl
  | .boss =>
    rw [applyMapping]
    rcases b.addBoss m.key m.value with ((_ | _ | _) | _) <;> rfl

/-- Without its place a construct has the same effect, or is rejected for the same reason. -/
theorem applyConstruct_unplaced (b : Blueprint) (construct : Construct) :
    applyConstruct b construct.unplaced =
      (applyConstruct b construct).mapError Failure.unplaced := by
  cases construct with
  | directive d body =>
    rw [Construct.unplaced, applyConstruct]
    cases Mapping.ofBody? body with
    | none => rfl
    | some m => exact (mapError_unplaced_applyMapping b d body m).symm
  | block line rows =>
    rw [Construct.unplaced, applyConstruct, applyConstruct]
    cases Template.ofRows? (rows.map (·.map some)) with
    | error fault => rfl
    | ok template =>
      dsimp only
      cases b.addTemplate template <;> rfl

/-- Constructs without places have the same effect, and fail alike up to the places. -/
theorem applyConstructs_unplaced (b : Blueprint) (constructs : List Construct) :
    applyConstructs b (constructs.map Construct.unplaced) =
      ((applyConstructs b constructs).1,
        (applyConstructs b constructs).2.map Failure.unplaced) := by
  induction constructs generalizing b with
  | nil => rfl
  | cons construct rest ih =>
    rw [List.map_cons, applyConstructs, applyConstructs, applyConstruct_unplaced]
    cases applyConstruct b construct with
    | error failure => rfl
    | ok b' => exact ih b'

/-- Without places a token stream has the same effect, and is not read to its end for the same
reason. -/
theorem fill_unplaced (b : Blueprint) (s : TokenStream) :
    fill b s.unplaced = ((fill b s).1, (fill b s).2.map Failure.unplaced) := by
  rw [fill, fill, TokenStream.constructs, TokenStream.constructs]
  simp only [TokenStream.unplaced]
  rw [readConstructs_unplaced s.stop]
  simp only [applyConstructs_unplaced]
  obtain ⟨b', _ | failure⟩ := applyConstructs b (readConstructs s.stop s.pending).1
  · simp [Option.map_map, Function.comp_def, Failure.unplaced]
  · rfl

/-! ## Lexemes -/

/-- Without places the tokens of a lexeme depend on its characters alone. -/
theorem Lexeme.map_unplaced_tokens (l : Lexeme) :
    l.tokens.map Token.unplaced = (Lexeme.mk l.chars {}).tokens.map Token.unplaced := by
  rw [tokens, tokens]
  by_cases hopening : l.chars = ['\x7b']
  · rw [if_pos hopening, if_pos hopening]
    rfl
  · by_cases hclosing : l.chars = ['\x7d']
    · rw [if_neg hopening, if_neg hopening, if_pos hclosing, if_pos hclosing]
      rfl
    · rw [if_neg hopening, if_neg hopening, if_neg hclosing, if_neg hclosing]
      cases Directive.ofLexeme? l.chars <;> rfl

/-- Without places the tokens of a text are those of the lexemes that are laid out in it. -/
theorem unplaced_ofText_eq {ls : List (List Char)} {text : String} (h : LaidOut ls text.toList) :
    (TokenStream.ofText text).unplaced =
      ⟨ls.flatMap fun chars => (Lexeme.mk chars {}).tokens.map Token.unplaced, {}⟩ := by
  rw [TokenStream.unplaced, TokenStream.ofText, List.map_flatMap, ← h.map_chars_lexemes {},
    List.flatMap_map]
  simp only [← Lexeme.map_unplaced_tokens]

end LevelForge.Ldl
