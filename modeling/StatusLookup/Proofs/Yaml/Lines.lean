import StatusLookup.Proofs.Yaml.Block

/-!
# Texts of block mappings

A line with a key and perhaps a double-quoted text behind it adds the same tokens wherever it
stands, given the columns that are open before it: first the ends of the blocks that are further to
the right, and then its own, with the beginning of a mapping if its column is not open. A text of
such lines is therefore read line by line. How far the lines are indented does not matter to the
scan.
-/

namespace StatusLookup.Yaml

/-! ## Characters of such a text -/

/-- Whether a character is written in a text of lines: a printable ASCII character or a line
feed. -/
def isWritten (c : Char) : Bool :=
  isAscii c || c == '\n'

theorem isAscii_of_isKeyChar {c : Char} (keyChar : isKeyChar c = true) : isAscii c = true := by
  have within (low high : Char) (above : ' ' ≤ low) (below : high ≤ '~')
      (range : low ≤ c ∧ c ≤ high) : isAscii c = true := by
    rw [isAscii, Bool.and_eq_true, decide_eq_true_eq, decide_eq_true_eq]
    exact ⟨Char.le_trans above range.1, Char.le_trans range.2 below⟩
  rw [isKeyChar, Bool.or_eq_true, beq_iff_eq] at keyChar
  rcases keyChar with letter | rfl
  · rcases (Bool.or_eq_true _ _).mp letter with upper | lower
    · exact within 'A' 'Z' (by decide) (by decide) (of_decide_eq_true upper)
    · obtain ⟨low, high⟩ := (Bool.and_eq_true _ _).mp lower
      exact within 'a' 'z' (by decide) (by decide) ⟨of_decide_eq_true low, of_decide_eq_true high⟩
  · decide

theorem isAllowed_of_isWritten {c : Char} (written : isWritten c = true) : isAllowed c = true := by
  rw [isWritten, Bool.or_eq_true] at written
  rcases written with ascii | lineFeed
  · rw [isAscii] at ascii
    simp [isAllowed, ascii]
  · simp [isAllowed, lineFeed]

/-- Line breaks that are alike already stay as they are. -/
theorem unifyBreaks_eq_self {cs : List Char} (written : ∀ c ∈ cs, isWritten c = true) :
    unifyBreaks cs = cs := by
  induction cs with
  | nil => rfl
  | cons c cs ih =>
      have first : isWritten c = true := written c List.mem_cons_self
      have others : ∀ x ∈ cs, isWritten x = true := fun x member => written x (.tail c member)
      have noReturn : c ≠ '\r' := ne_of_class first (by decide)
      have noNextLine : c ≠ '\u0085' := ne_of_class first (by decide)
      rw [unifyBreaks, ih others]
      · simp [noReturn, noNextLine]
      · intro _ start
        exact absurd start noReturn

/-- A text of such characters is read as it is. -/
theorem readable?_ofList {cs : List Char} (written : ∀ c ∈ cs, isWritten c = true) :
    readable? (String.ofList cs) = some cs := by
  have allowed : cs.all isAllowed = true :=
    List.all_eq_true.mpr fun c member => isAllowed_of_isWritten (written c member)
  have noMark : dropByteOrderMark cs = cs := by
    cases cs with
    | nil => rfl
    | cons c cs =>
        have other : c ≠ '\ufeff' := ne_of_class (written c List.mem_cons_self) (by decide)
        rw [dropByteOrderMark]
        intro _ start
        exact other (List.cons.inj start).1
  rw [readable?, String.toList_ofList, if_pos allowed, noMark, unifyBreaks_eq_self written]

/-! ## Lines -/

/-- A line that gives a key, and perhaps a text for it. -/
structure Line where
  indent : Nat
  key : String
  value : Option String
  isWord : IsWord key

namespace Line

def valueChars (line : Line) : List Char :=
  match line.value with
  | none => []
  | some text => ' ' :: doubleQuoted text

def chars (line : Line) : List Char :=
  List.replicate line.indent ' ' ++
    (line.key.toList ++ ':' :: (line.valueChars ++ ['\n']))

def write (lines : List Line) : String :=
  String.ofList (lines.flatMap chars)

/-- The columns that are open at the start of a line and that the line does not close. -/
def kept (columns : List Nat) (line : Line) : List Nat :=
  columns.dropWhile (line.indent < ·)

/-- The columns that are open behind a line. -/
def columns (open_ : List Nat) (line : Line) : List Nat :=
  Scan.columnsBehind (line.kept open_) line.indent

def valueTokens (line : Line) : List Token :=
  match line.value with
  | none => []
  | some text => [.scalar text false]

def tokens (open_ : List Nat) (line : Line) : List Token :=
  (open_.takeWhile (line.indent < ·)).map (fun _ => .blockEnd) ++
    Scan.keyTokens (line.kept open_) line.indent line.key ++ line.valueTokens

/-- The tokens of lines and of the end of the text behind them. -/
def tokensFrom : List Nat → List Line → List Token
  | open_, [] => (open_.map fun _ => .blockEnd) ++ [.streamEnd]
  | open_, line :: lines => line.tokens open_ ++ tokensFrom (line.columns open_) lines

theorem le_indent_of_mem_kept {open_ : List Nat} {line : Line} :
    ∀ column ∈ (line.kept open_).head?, column ≤ line.indent := by
  intro column head
  have first := List.head?_dropWhile_not (line.indent < ·) open_
  rw [← kept, Option.mem_def.mp head] at first
  simpa using first

/-- No column that a line leaves open is further to the right than the line. -/
theorem le_indent_of_mem_columns {open_ : List Nat} {line : Line} :
    ∀ column ∈ (line.columns open_).head?, column ≤ line.indent := by
  rw [columns, Scan.columnsBehind]
  split
  · simp
  · exact le_indent_of_mem_kept

theorem atBlankOrEnd_valueChars (line : Line) (rest : List Char) :
    atBlankOrEnd (line.valueChars ++ '\n' :: rest) = true := by
  rw [valueChars]
  split <;> rfl

def steps (line : Line) : Nat :=
  2 + line.valueTokens.length

theorem steps_le_length (line : Line) : line.steps ≤ line.chars.length := by
  have word : 0 < line.key.toList.length := List.length_pos_iff.mpr line.isWord.1
  have value : line.valueTokens.length ≤ line.valueChars.length := by
    rw [valueTokens, valueChars]
    split <;> simp
  simp only [steps, chars, List.length_append, List.length_cons, List.length_nil]
  omega

def allSteps : List Line → Nat
  | [] => 0
  | line :: lines => allSteps lines + line.steps

theorem allSteps_le_length (lines : List Line) : allSteps lines ≤ (lines.flatMap chars).length := by
  induction lines with
  | nil => exact Nat.le_refl 0
  | cons line lines ih =>
      rw [allSteps, List.flatMap_cons, List.length_append, Nat.add_comm]
      exact Nat.add_le_add line.steps_le_length ih

end Line

namespace Scan

theorem run_succ_of_next? {s s' : Scan} (step : s.next? = some s') (goesOn : s'.isAtEnd = false)
    (n : Nat) : run (n + 1) s = run n s' := by
  rw [run, step]
  simp [goesOn]

variable (open_ : List Nat) (read : List Token)

/-- At the end of a line the scan goes on as at the start of the next one. -/
theorem run_newline (n : Nat) (keyAllowed : Bool) (line column : Nat) (rest : List Char) :
    run n (inBlock open_ read keyAllowed ⟨'\n' :: rest, ⟨line, column⟩⟩) =
      run n (inBlock open_ read true ⟨rest, ⟨line + 1, 0⟩⟩) := by
  have gap : skipGap false keyAllowed false ⟨line, column⟩ ('\n' :: rest) =
      skipGap false true false ⟨line + 1, 0⟩ rest := by
    rw [skipGap, if_pos (by decide), Bool.not_false, Bool.or_true]
    rfl
  have same : (inBlock open_ read keyAllowed ⟨'\n' :: rest, ⟨line, column⟩⟩).next? =
      (inBlock open_ read true ⟨rest, ⟨line + 1, 0⟩⟩).next? := by
    rw [next?, next?, toNextToken_inBlock _ _ _ _ gap, toNextToken_inBlock _ _ _ _ rfl]
  cases n with
  | zero => rfl
  | succ n =>
      rw [run, run, same]
      rfl

/-- Behind the colon of a line, the scan takes in the text of the line and goes on. -/
theorem run_value (line : Line) {p : Position} (fits : ∀ column ∈ open_.head?, column ≤ p.column)
    (n : Nat) (rest : List Char) :
    run (n + line.valueTokens.length)
        (inBlock open_ read false ⟨line.valueChars ++ '\n' :: rest, p⟩) =
      run n (inBlock open_ (read ++ line.valueTokens) true ⟨rest, ⟨p.line + 1, 0⟩⟩) := by
  rw [Line.valueChars, Line.valueTokens]
  cases line.value with
  | none =>
      rw [List.append_nil]
      exact run_newline _ _ _ _ _ _ _
  | some text =>
      have step := next?_doubleQuoted (p := p) open_ read text ('\n' :: rest) fits
      have goesOn (cursor : Cursor) :
          (inBlock open_ (read ++ [.scalar text false]) false cursor).isAtEnd = false := by
        simp [isAtEnd, inBlock]
      rw [List.length_singleton, List.cons_append, run_succ_of_next? step (goesOn _)]
      exact run_newline _ _ _ _ _ _ _

/-- A line adds its tokens and leaves its columns open. -/
theorem run_line (line : Line) (n number : Nat) (rest : List Char) :
    run (n + line.steps) (inBlock open_ read true ⟨line.chars ++ rest, ⟨number, 0⟩⟩) =
      run n (inBlock (line.columns open_) (read ++ line.tokens open_) true
        ⟨rest, ⟨number + 1, 0⟩⟩) := by
  have ends := line.atBlankOrEnd_valueChars rest
  have word := next?_word open_ read line.isWord number line.indent ends
  have colon := next?_colon (p := ⟨number, line.indent⟩) (line.kept open_)
    (read ++ (open_.takeWhile (line.indent < ·)).map fun _ => .blockEnd) line.isWord.2.2 ends
    Line.le_indent_of_mem_kept
  have split : line.chars ++ rest = List.replicate line.indent ' ' ++
      (line.key.toList ++ ':' :: (line.valueChars ++ '\n' :: rest)) := by
    simp [Line.chars]
  have goesOn (columns open_ : List Nat) (tokens : List Token) (cursor : Cursor) :
      (inBlock columns (tokens ++ keyTokens open_ line.indent line.key) false cursor).isAtEnd =
        false := by
    simp [isAtEnd, inBlock, keyTokens]
  rw [← Line.kept] at word
  rw [split, Line.steps, Nat.add_comm 2, ← Nat.add_assoc, run_succ_of_next? word rfl,
    run_succ_of_next? colon (goesOn _ _ _ _), run_value]
  · rw [Line.tokens, Line.columns, List.append_assoc, List.append_assoc, List.append_assoc]
    rfl
  · intro column head
    exact Nat.le_trans (Line.le_indent_of_mem_columns column head) (Nat.le_add_right _ _)

/-- Lines add the tokens of each in turn, and the end of the text closes what is still open. -/
theorem run_lines (lines : List Line) (n number : Nat) :
    run (n + Line.allSteps lines + 1)
        (inBlock open_ read true ⟨lines.flatMap Line.chars, ⟨number, 0⟩⟩) =
      read ++ Line.tokensFrom open_ lines := by
  induction lines generalizing open_ read number with
  | nil =>
      have ended (cursor : Cursor) :
          (inBlock [] (read ++ (open_.map fun _ => .blockEnd) ++ [.streamEnd]) false
            cursor).isAtEnd = true := by
        simp [isAtEnd, inBlock]
      rw [List.flatMap_nil, run, next?_end]
      dsimp only
      rw [if_pos (ended _), tokens_inBlock, List.append_assoc, Line.tokensFrom]
  | cons line lines ih =>
      have count : n + Line.allSteps (line :: lines) + 1 =
          n + Line.allSteps lines + 1 + line.steps := by
        rw [Line.allSteps]
        omega
      rw [count, List.flatMap_cons, run_line, ih, Line.tokensFrom, List.append_assoc]

end Scan

/-- A text of lines is made of printable ASCII characters and line feeds alone. -/
theorem Line.isWritten_of_mem {lines : List Line} :
    ∀ c ∈ lines.flatMap chars, isWritten c = true := by
  intro c member
  obtain ⟨line, _, member⟩ := List.mem_flatMap.mp member
  have word (keyChar : c ∈ line.key.toList) : isAscii c = true :=
    isAscii_of_isKeyChar (List.all_eq_true.mp line.isWord.2.1 c keyChar)
  have value (behind : c ∈ line.valueChars) : isAscii c = true := by
    rw [valueChars] at behind
    split at behind
    · exact absurd behind List.not_mem_nil
    · rcases List.mem_cons.mp behind with rfl | behind
      · decide
      · exact isAscii_of_mem_doubleQuoted behind
  simp only [chars, List.mem_append, List.mem_cons, List.mem_replicate, List.not_mem_nil, or_false]
    at member
  rw [isWritten, Bool.or_eq_true, beq_iff_eq]
  rcases member with ⟨_, rfl⟩ | keyChar | rfl | behind | lineFeed
  · exact .inl (by decide)
  · exact .inl (word keyChar)
  · exact .inl (by decide)
  · exact .inl (value behind)
  · exact .inr lineFeed

theorem tokens_write (lines : List Line) : tokens (Line.write lines) = Line.tokensFrom [] lines := by
  have readable : readable? (Line.write lines) = some (lines.flatMap Line.chars) :=
    readable?_ofList Line.isWritten_of_mem
  obtain ⟨n, enough⟩ := Nat.exists_eq_add_of_le' (Line.allSteps_le_length lines)
  have start : Scan.start (lines.flatMap Line.chars) =
      Scan.inBlock [] [] true ⟨lines.flatMap Line.chars, ⟨0, 0⟩⟩ := rfl
  rw [tokens, readable]
  dsimp only
  rw [enough, start, Scan.run_lines, List.nil_append]

end StatusLookup.Yaml
