import DraftLisp.Interpreter
import DraftLisp.Proofs.Builtin.Counted
import DraftLisp.Proofs.Evaluation.Given
import DraftLisp.Proofs.Form.Limits
import DraftLisp.Proofs.Token.Spelled

namespace DraftLisp

namespace Builtin.Strings

/-- The first of the forms as data, nil when there is none, or the error in their place. -/
def dataOf : Except Error (List Form) → Except Halt Value
  | .ok [] => .ok .nil
  | .ok (form :: _) => .ok (.ofForm form)
  | .error error => .error (.error error)

theorem readData_eq (text : String) :
    halting (readData text) = dataOf (Reader.readText Reader.defaultLimit text) := by
  unfold readData
  cases Reader.readText Reader.defaultLimit text with
  | error error => rfl
  | ok forms => cases forms <;> rfl

theorem apply_read (ev : Evaluator) (level : Nat) (text : String) (state : State) :
    apply ev level (.builtin texts[12]) [.string text] state =
      .done (dataOf (Reader.readText Reader.defaultLimit text)) state := by
  have hrun : namingHalt "READ" (halting (readData text)) = halting (readData text) := by
    cases hread : readData text with
    | ok value => rfl
    | error error =>
        have hcounted := counted_readData text
        rw [hread] at hcounted
        cases hcounted with
        | error harity =>
            change (Except.error (Halt.error (error.named "READ")) : Except Halt Value) = _
            rw [Error.named_of_not_arity harity]
            rfl
  rw [apply_pure rfl rfl]
  change Comp.ofExcept (namingHalt "READ" (halting (readData text))) state = _
  rw [hrun, readData_eq]
  cases dataOf (Reader.readText Reader.defaultLimit text) <;> rfl

end Builtin.Strings

open Builtin.Strings

theorem eval_read {state : State} {level room : Nat} {operand : Form} {text : String}
    (h : operand.Gives state level (.string text)) (rounds limit : Nat) (hroom : level < room) :
    eval rounds limit room 0 (.list [.symbol "READ", operand]) state =
      .done (dataOf (Reader.readText Reader.defaultLimit text)) state := by
  obtain ⟨room, rfl⟩ := Nat.exists_eq_add_of_lt hroom
  have hcall := eval_call_gives Builtin.texts[12] rfl rfl (.cons h .nil) rounds limit
    (Nat.le_add_right level room)
  exact hcall.trans (apply_read _ 1 text state)

/-- Whatever limit the interpreter has for its scripts, a text is read as data below the default
limit. That is how the interpreter reads the text itself if its limit is the default one, and else
on all texts but those that nest as deep as the smaller limit. -/
theorem read_within_default (interpreter : Interpreter) (text : String) :
    (∀ state level operand, Form.Gives state level operand (.string text) →
      level < interpreter.config.evalDepth →
      eval interpreter.config.rounds interpreter.config.evalDepth interpreter.config.evalDepth 0
          (.list [.symbol "READ", operand]) state =
        .done (dataOf (Reader.readText Reader.defaultLimit text)) state) ∧
    (Reader.readText Reader.defaultLimit text = interpreter.parse text ↔
      let least := min Reader.defaultLimit interpreter.config.parseDepth
      Reader.defaultLimit = interpreter.config.parseDepth ∨
        Reader.readText least text ≠ .error (.syntactic (.nesting least))) :=
  ⟨fun _ _ _ hoperand hlevel => eval_read hoperand _ _ hlevel,
    Reader.readText_eq_readText_iff _ _ text⟩

theorem tokenize_nested :
    Token.tokenize "((a))" = .ok [.opening, .opening, .symbol "A", .closing, .closing] := by
  have hname : Token.ofAtom ['a'] = .symbol "A" := by decide +kernel
  rw [Token.tokenize_eq_ok_iff, ← hname]
  exact Token.scan_cons rfl rfl (Token.scan_cons rfl rfl (Token.scan_cons rfl rfl
    (Token.scan_cons rfl rfl (Token.scan_cons rfl rfl Token.scan_nil))))

theorem readText_nested {limit : Nat} (h : 3 ≤ limit) :
    Reader.readText limit "((a))" = .ok [.list [.list [.symbol "A"]]] := by
  have hsmall : Reader.readText 3 "((a))" = .ok [.list [.list [.symbol "A"]]] :=
    Reader.readText_eq_ok_iff.mpr ⟨_, tokenize_nested, rfl⟩
  rw [← hsmall]
  exact Reader.readText_of_le h (by rw [hsmall]; exact fun heq => nomatch heq)

/-- Below a limit of three, too, a list in a list is read. -/
theorem read_within_default_nested :
    (Form.string "((a))").Gives default 1 (.string "((a))") ∧
      eval 1 2 2 0 (.list [.symbol "READ", .string "((a))"]) default =
        .done (.ok (.list [.list [.symbol "A"]])) default ∧
      Reader.readText Reader.defaultLimit "((a))" =
        (Interpreter.new ⟨3, 2, false, 1⟩).parse "((a))" := by
  have hgives := Form.gives_string default "((a))"
  obtain ⟨hread, hparse⟩ := read_within_default (.new ⟨3, 2, false, 1⟩) "((a))"
  have hcall := hread default 1 _ hgives (by decide)
  rw [readText_nested (by decide)] at hcall
  refine ⟨hgives, hcall, hparse.mpr (.inr ?_)⟩
  change Reader.readText 3 "((a))" ≠ .error (.syntactic (.nesting 3))
  rw [readText_nested (Nat.le_refl 3)]
  exact fun heq => nomatch heq

/-- An interpreter that refuses a list in a list reads it as data. -/
theorem not_read_as_parsed :
    ¬∀ (interpreter : Interpreter) (text : String) (state : State),
      2 ≤ interpreter.config.evalDepth →
      eval interpreter.config.rounds interpreter.config.evalDepth interpreter.config.evalDepth 0
          (.list [.symbol "READ", .string text]) state =
        .done (dataOf (interpreter.parse text)) state := by
  intro h
  have hread := h (.new ⟨2, 1024, false, 1⟩) "((a))" default (by decide)
  have hsmall : (Interpreter.new ⟨2, 1024, false, 1⟩).parse "((a))" =
      .error (.syntactic (.nesting 2)) :=
    Reader.readText_eq_nesting_iff.mpr ⟨_, tokenize_nested, rfl⟩
  rw [eval_read (Form.gives_string default "((a))") _ _ (by decide),
    readText_nested (by decide), hsmall] at hread
  cases hread

end DraftLisp
