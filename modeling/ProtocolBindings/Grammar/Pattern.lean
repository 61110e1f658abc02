import ProtocolBindings.Grammar.Token
import Std.Data.HashMap

/-!
# Parsing expressions

A pattern says which tokens may come next.  Alternatives are tried in order and
the first that fits is taken; repetition takes as much as it can.  Patterns may
refer to the rules of a grammar.  Where a rule comes to an end depends only on where
it starts, so each rule is tried once at each position and its end is kept.
-/

namespace ProtocolBindings.Grammar

/-- What may come next, in terms of the rules `ρ` of a grammar. -/
inductive Pattern (ρ : Type) where
  | nothing
  /-- A token that a test admits. -/
  | token (admits : Token → Bool)
  | rule (name : ρ)
  | both (first second : Pattern ρ)
  | either (first second : Pattern ρ)
  | many (repeated : Pattern ρ)
  /-- What comes next fits, but is not read. -/
  | ahead (expected : Pattern ρ)
  /-- What comes next does not fit. -/
  | notAhead (unexpected : Pattern ρ)

namespace Pattern

variable {ρ : Type}

/-- Patterns one after the other. -/
def sequence (patterns : List (Pattern ρ)) : Pattern ρ :=
  patterns.foldr .both .nothing

/-- The first pattern that fits. -/
def oneOf : List (Pattern ρ) → Pattern ρ
  | [] => .notAhead .nothing
  | [pattern] => pattern
  | pattern :: patterns => .either pattern (oneOf patterns)

/-- A pattern that may be missing. -/
def optional (pattern : Pattern ρ) : Pattern ρ := .either pattern .nothing

/-- A pattern once or more. -/
def oneOrMore (pattern : Pattern ρ) : Pattern ρ := .both pattern (.many pattern)

/-- A word, be it one that can name something or not. -/
def word (text : String) : Pattern ρ :=
  .token fun token => token = .keyword text || token = .name text

/-- A name. -/
def anyName : Pattern ρ := .token fun token => token matches .name _

/-- A name other than the given one. -/
def nameExcept (text : String) : Pattern ρ :=
  .token fun token => match token with
    | .name other => other != text
    | _ => false

/-- A given symbol. -/
def symbol (text : String) : Pattern ρ := .token fun token => token = .symbol text

/-- One of the given symbols. -/
def anySymbol (texts : List String) : Pattern ρ :=
  .token fun token => match token with
    | .symbol text => texts.contains text
    | _ => false

/-- A pattern once or more, with a symbol in between. -/
def separated (separator : String) (pattern : Pattern ρ) : Pattern ρ :=
  .both pattern (.many (.both (symbol separator) pattern))

variable [BEq ρ] [Hashable ρ]

/-- Where the rules that were tried come to an end, if they fit at all. -/
abbrev Ends (ρ : Type) [BEq ρ] [Hashable ρ] := Std.HashMap (ρ × Nat) (Option Nat)

/-- The position after the tokens that a pattern reads.  The rounds bound how deep
patterns and repetitions may go. -/
def run (body : ρ → Pattern ρ) (tokens : Array Token) : (rounds : Nat) → Pattern ρ →
    (position : Nat) → StateM (Ends ρ) (Option Nat)
  | 0, _, _ => pure none
  | rounds + 1, pattern, position =>
      match pattern with
      | .nothing => pure (some position)
      | .token admits => pure (if tokens[position]?.any admits then some (position + 1) else none)
      | .rule name => do
          match (← get)[(name, position)]? with
          | some ending => pure ending
          | none => do
              let ending ← run body tokens rounds (body name) position
              modify fun ends => ends.insert (name, position) ending
              return ending
      | .both first second => do
          match ← run body tokens rounds first position with
          | some next => run body tokens rounds second next
          | none => pure none
      | .either first second => do
          match ← run body tokens rounds first position with
          | some next => pure (some next)
          | none => run body tokens rounds second position
      | .many repeated => do
          match ← run body tokens rounds repeated position with
          | some next => run body tokens rounds (.many repeated) next
          | none => pure (some position)
      | .ahead expected => do
          let ending ← run body tokens rounds expected position
          return if ending.isSome then some position else none
      | .notAhead unexpected => do
          let ending ← run body tokens rounds unexpected position
          return if ending.isSome then none else some position

/-- Whether a pattern reads all of the tokens. -/
def readsAll (body : ρ → Pattern ρ) (pattern : Pattern ρ) (tokens : List Token) : Bool :=
  let rounds := 1000 * tokens.length + 1000
  let ending : Option Nat := (run body tokens.toArray rounds pattern 0 ∅).1
  ending == some tokens.length

end Pattern

end ProtocolBindings.Grammar
