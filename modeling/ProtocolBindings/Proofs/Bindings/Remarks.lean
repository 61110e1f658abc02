import ProtocolBindings.Proofs.Bindings.Layout
import ProtocolBindings.Proofs.Grammar.TextLiteral

/-!
# Remarks in generated code

Generated code consists of lines of code and of remarks, which are comments or
documentation.  A remark never runs into the code: a comment is one physical line, and
the documentation ends at its last line and is read as the lines that it is made of.
-/

namespace ProtocolBindings.Bindings

open Grammar (Denotes Plain spanLiteral unescape)
open Text (SingleLine isLineEnd physicalLines)

/-! ## Escaped lines -/

/-- A line that starts with two quotes. -/
def StartsWithQuotes (line : Text) : Prop := ∃ rest, line = .char '"' :: .char '"' :: rest

theorem doubleBackslashes_cons {symbol : Symbol} (rest : Text) (ordinary : symbol ≠ '\\') :
    doubleBackslashes (symbol :: rest) = symbol :: doubleBackslashes rest := by
  rw [doubleBackslashes, List.flatMap_cons, if_neg ordinary]
  rfl

theorem startsWithQuotes_of_doubleBackslashes {line : Text}
    (starts : StartsWithQuotes (doubleBackslashes line)) : StartsWithQuotes line := by
  obtain ⟨rest, start⟩ := starts
  match line with
  | [] => cases start
  | first :: line =>
      by_cases escape : first = '\\'
      · rw [escape] at start
        cases start
      · rw [doubleBackslashes_cons _ escape] at start
        obtain ⟨rfl, second⟩ := List.cons.inj start
        match line with
        | [] => cases second
        | symbol :: line =>
            by_cases escape : symbol = '\\'
            · rw [escape] at second
              cases second
            · rw [doubleBackslashes_cons _ escape] at second
              obtain ⟨rfl, -⟩ := List.cons.inj second
              exact ⟨line, rfl⟩

theorem escapeLine_backslash (rest : Text) :
    escapeLine (.char '\\' :: rest) = .char '\\' :: .char '\\' :: escapeLine rest := rfl

theorem escapeLine_quotes (rest : Text) :
    escapeLine (.char '"' :: .char '"' :: .char '"' :: rest) = "\\\"\\\"\\\"" ++ escapeLine rest :=
  rfl

theorem escapeLine_cons {symbol : Symbol} {rest : Text} (ordinary : symbol ≠ '\\')
    (apart : symbol = '"' → ¬StartsWithQuotes rest) :
    escapeLine (symbol :: rest) = symbol :: escapeLine rest := by
  rw [escapeLine, doubleBackslashes_cons _ ordinary, escapeQuotes]
  · rfl
  · intro more isQuote quotes
    exact apart isQuote (startsWithQuotes_of_doubleBackslashes ⟨more, quotes⟩)

/-- How a line is escaped, from its first symbol on. -/
theorem escapeLine_induct {motive : Text → Prop} (nil : motive [])
    (backslash : ∀ rest, motive rest → motive (.char '\\' :: rest))
    (quotes : ∀ rest, motive rest → motive (.char '"' :: .char '"' :: .char '"' :: rest))
    (quote : ∀ rest, ¬StartsWithQuotes rest → motive rest → motive (.char '"' :: rest))
    (symbol : ∀ (symbol : Symbol) (rest : Text), symbol ≠ '\\' → symbol ≠ '"' → motive rest →
      motive (symbol :: rest)) (line : Text) : motive line := by
  induction line using escapeQuotes.induct with
  | case1 rest ih => exact quotes rest ih
  | case2 first rest apart ih =>
      by_cases escape : first = '\\'
      · rw [escape]
        exact backslash rest ih
      · by_cases isQuote : first = '"'
        · rw [isQuote]
          exact quote rest (fun ⟨more, starts⟩ => apart more isQuote starts) ih
        · exact symbol first rest escape isQuote ih
  | case3 => exact nil

/-- An escaped line starts with a quote only if the line does. -/
theorem escapeLine_eq_quote {line more tail : Text}
    (starts : escapeLine line ++ .char '\n' :: tail = .char '"' :: more) :
    ∃ rest, line = .char '"' :: rest ∧ escapeLine rest ++ .char '\n' :: tail = more := by
  induction line using escapeLine_induct with
  | nil => cases starts
  | backslash rest ih => cases starts
  | quotes rest ih => cases starts
  | quote rest apart ih =>
      rw [escapeLine_cons (by decide) fun _ => apart] at starts
      exact ⟨rest, rfl, (List.cons.inj starts).2⟩
  | symbol first rest escape isQuote ih =>
      rw [escapeLine_cons escape fun same => absurd same isQuote] at starts
      exact absurd (List.cons.inj starts).1 isQuote

/-- An escaped line with its end stands for the line, whatever stands behind it. -/
theorem denotes_escapeLine (line : Text) :
    Denotes true (escapeLine line ++ [.char '\n']) (line ++ [.char '\n']) := by
  induction line using escapeLine_induct with
  | nil => exact .symbol ⟨by decide, by decide, .inl rfl⟩
  | backslash rest ih =>
      have backslash : Denotes true [.char '\\', .char '\\'] [.char '\\'] := .letter rfl
      exact backslash.append ih
  | quotes rest ih =>
      have quote : Denotes true [.char '\\', .char '"'] [.char '"'] := .letter rfl
      exact quote.append (quote.append (quote.append ih))
  | quote rest apart ih =>
      rw [escapeLine_cons (by decide) fun _ => apart]
      have open_ (tail : Text) :
          ¬['"', '"'].map Symbol.char <+: escapeLine rest ++ [.char '\n'] ++ tail := by
        rintro ⟨more, start⟩
        rw [List.append_assoc] at start
        obtain ⟨second, rfl, after⟩ := escapeLine_eq_quote start.symm
        obtain ⟨third, rfl, -⟩ := escapeLine_eq_quote after
        exact apart ⟨third, rfl⟩
      exact ih.quote open_
  | symbol first rest escape isQuote ih =>
      have itself : Denotes true [first] [first] := .symbol ⟨isQuote, escape, .inl rfl⟩
      rw [escapeLine_cons escape fun same => absurd same isQuote]
      exact itself.append ih

theorem escapeLine_ne_nil {line : Text} (present : line ≠ []) : escapeLine line ≠ [] := by
  induction line using escapeLine_induct with
  | nil => exact absurd rfl present
  | backslash rest ih => exact List.cons_ne_nil _ _
  | quotes rest ih => exact List.cons_ne_nil _ _
  | quote rest apart ih =>
      rw [escapeLine_cons (by decide) fun _ => apart]
      exact List.cons_ne_nil _ _
  | symbol first rest escape isQuote ih =>
      rw [escapeLine_cons escape fun same => absurd same isQuote]
      exact List.cons_ne_nil _ _

/-- An escaped line behind an indentation stands for the line behind it. -/
theorem denotes_indented {indentation : Text} (plain : ∀ symbol ∈ indentation, Plain true symbol)
    (line : Text) :
    Denotes true (indented indentation (escapeLine line) ++ [.char '\n'])
      (indented indentation line ++ [.char '\n']) := by
  cases line with
  | nil => exact .symbol ⟨by decide, by decide, .inl rfl⟩
  | cons first rest =>
      have present : (escapeLine (first :: rest)).isEmpty = false :=
        List.isEmpty_eq_false_iff.mpr (escapeLine_ne_nil (List.cons_ne_nil _ _))
      rw [indented, present, indented]
      simp only [List.isEmpty_cons, Bool.false_eq_true, ↓reduceIte, List.append_assoc]
      exact (Denotes.plain plain).append (denotes_escapeLine (first :: rest))

theorem singleLine_escapeLine {line : Text} (single : SingleLine line) :
    SingleLine (escapeLine line) := by
  have backslash : isLineEnd (.char '\\') = false := by decide
  induction line using escapeLine_induct with
  | nil => exact nofun
  | backslash rest ih =>
      obtain ⟨first, later⟩ := Text.singleLine_cons.mp single
      rw [escapeLine_backslash, Text.singleLine_cons, Text.singleLine_cons]
      exact ⟨backslash, first, ih later⟩
  | quotes rest ih =>
      simp only [Text.singleLine_cons] at single
      rw [escapeLine_quotes, Text.singleLine_append]
      exact ⟨by decide, ih single.2.2.2⟩
  | quote rest apart ih =>
      obtain ⟨first, later⟩ := Text.singleLine_cons.mp single
      rw [escapeLine_cons (by decide) fun _ => apart, Text.singleLine_cons]
      exact ⟨first, ih later⟩
  | symbol symbol rest escape isQuote ih =>
      obtain ⟨first, later⟩ := Text.singleLine_cons.mp single
      rw [escapeLine_cons escape fun same => absurd same isQuote, Text.singleLine_cons]
      exact ⟨first, ih later⟩

/-! ## Pieces of code -/

def blanks (width : Nat) : Text := List.replicate width (.char ' ')

/-- A piece of generated code.  The empty line behind the documentation of a class and
the body of an empty class depend on whether something is described, but not on how. -/
inductive Piece where
  | code (line : Text)
  | gap
  | pass
  /-- Comments, from their lines. -/
  | comments (width : Nat) (content : List Text)
  /-- A triple-quoted text, from its lines. -/
  | documentation (width : Nat) (content : List Text)
deriving DecidableEq, Repr

namespace Piece

def lines : Piece → List Text
  | .code line => [line]
  | .gap => [emptyLine]
  | .pass => ["    pass"]
  | .comments width content => content.map (commentLine (blanks width))
  | .documentation width content =>
      if content.isEmpty then []
      else [blanks width ++ tripleQuote] ++
        content.map (fun line => indented (blanks width) (escapeLine line)) ++
        [blanks width ++ tripleQuote]

/-- The line that a piece of code is. -/
def code? : Piece → Option Text
  | .code line => some line
  | _ => none

def isRemark : Piece → Bool
  | .comments _ _ | .documentation _ _ => true
  | _ => false

/-- A remark stays apart from the code around it. -/
inductive Enclosed : Piece → Prop where
  | comments {width : Nat} {content : List Text}
      (single : ∀ line ∈ (comments width content).lines, SingleLine line)
      (marked : ∀ line ∈ (comments width content).lines, ∃ text,
        line = blanks width ++ .char '#' :: text) :
      Enclosed (.comments width content)
  | absent {width : Nat} : Enclosed (.documentation width [])
  | documentation {width : Nat} {content : List Text} {body : Text}
      (single : ∀ line ∈ (documentation width content).lines, SingleLine line)
      (written : joinLines (documentation width content).lines =
        blanks width ++ (tripleQuote ++ (body ++ (tripleQuote ++ lineEnd))))
      (closed : ∀ after, spanLiteral true (body ++ (tripleQuote ++ after)) = some (body, after))
      (read : unescape body =
        some (lineEnd ++ joinLines (content.map (indented (blanks width))) ++ blanks width)) :
      Enclosed (.documentation width content)

theorem plain_of_mem_blanks {width : Nat} : ∀ symbol ∈ blanks width, Plain true symbol := by
  intro symbol member
  rw [List.eq_of_mem_replicate member]
  exact ⟨by decide, by decide, .inl rfl⟩

theorem singleLine_blanks (width : Nat) : SingleLine (blanks width) := by
  intro symbol member
  rw [List.eq_of_mem_replicate member]
  rfl

theorem singleLine_indented {width : Nat} {line : Text} (single : SingleLine line) :
    SingleLine (indented (blanks width) line) := by
  rw [indented]
  split
  · exact nofun
  · exact Text.singleLine_append.mpr ⟨singleLine_blanks width, single⟩

theorem singleLine_commentLine {width : Nat} {line : Text} (single : SingleLine line) :
    SingleLine (commentLine (blanks width) line) := by
  have mark : SingleLine "#" := by decide
  have opening : SingleLine "# " := by decide
  rw [commentLine]
  split
  · exact Text.singleLine_append.mpr ⟨singleLine_blanks width, mark⟩
  · rw [Text.singleLine_append, Text.singleLine_append]
    exact ⟨⟨singleLine_blanks width, opening⟩, single⟩

theorem commentLine_marked (width : Nat) (line : Text) :
    ∃ text, commentLine (blanks width) line = blanks width ++ .char '#' :: text := by
  rw [commentLine]
  split
  · exact ⟨[], rfl⟩
  · exact ⟨.char ' ' :: line, by rw [List.append_assoc]; rfl⟩

theorem enclosed_comments (width : Nat) {content : List Text}
    (single : ∀ line ∈ content, SingleLine line) : Enclosed (.comments width content) := by
  apply Enclosed.comments
  · exact List.forall_mem_map.mpr fun line member => singleLine_commentLine (single line member)
  · exact List.forall_mem_map.mpr fun line _ => commentLine_marked width line

/-- The lines of a documentation between its quotes. -/
def body (width : Nat) (content : List Text) : Text :=
  lineEnd ++ joinLines (content.map fun line => indented (blanks width) (escapeLine line)) ++
    blanks width

theorem denotes_body (width : Nat) (content : List Text) :
    Denotes true (body width content)
      (lineEnd ++ joinLines (content.map (indented (blanks width))) ++ blanks width) := by
  have feed : Denotes true lineEnd lineEnd := .symbol ⟨by decide, by decide, .inl rfl⟩
  have inner : Denotes true
      (content.flatMap fun line => indented (blanks width) (escapeLine line) ++ lineEnd)
      (content.flatMap fun line => indented (blanks width) line ++ lineEnd) :=
    Denotes.flatMap fun line _ => denotes_indented plain_of_mem_blanks line
  rw [body, joinLines, joinLines, List.flatMap_map, List.flatMap_map]
  exact (feed.append inner).append (.plain plain_of_mem_blanks)

theorem lines_documentation (width : Nat) (first : Text) (rest : List Text) :
    (documentation width (first :: rest)).lines =
      (blanks width ++ tripleQuote) ::
        ((first :: rest).map fun line => indented (blanks width) (escapeLine line)) ++
        [blanks width ++ tripleQuote] := rfl

theorem enclosed_documentation (width : Nat) {content : List Text}
    (single : ∀ line ∈ content, SingleLine line) : Enclosed (.documentation width content) := by
  cases content with
  | nil => exact .absent
  | cons first rest =>
      have quotes : SingleLine (blanks width ++ tripleQuote) :=
        Text.singleLine_append.mpr ⟨singleLine_blanks width, by decide⟩
      have denotes := denotes_body width (first :: rest)
      refine .documentation ?_ ?_ denotes.span_quotes denotes.unescape_eq
      · rw [lines_documentation, List.forall_mem_append, List.forall_mem_cons]
        refine ⟨⟨quotes, List.forall_mem_map.mpr fun line member => ?_⟩,
          List.forall_mem_singleton.mpr quotes⟩
        exact singleLine_indented (singleLine_escapeLine (single line member))
      · rw [lines_documentation]
        simp [joinLines, body]

/-- The lines that a remark is made of. -/
def content : Piece → List Text
  | .comments _ content | .documentation _ content => content
  | _ => []

/-- A remark whose lines do not run over a line end stays apart from the code. -/
theorem enclosed_of_singleLine {piece : Piece} (remark : piece.isRemark = true)
    (single : ∀ line ∈ piece.content, SingleLine line) : piece.Enclosed := by
  cases piece with
  | comments width content => exact enclosed_comments width single
  | documentation width content => exact enclosed_documentation width single
  | _ => cases remark

end Piece

end ProtocolBindings.Bindings
