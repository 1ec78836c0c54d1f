import Mathlib.Data.List.TakeWhile
import StatusLookup.Proofs.Yaml.DoubleQuoted
import StatusLookup.Yaml.Tokens

/-!
# Steps of a scan in a block

What one step of the scan does where block mappings are written: a word that turns out to be a key
at the colon behind it, a double-quoted scalar behind that, and the end of the text. In between the
scan has no undecided key, and all it holds is the open columns and the tokens so far.
-/

namespace StatusLookup.Yaml

/-! ## Words -/

/-- A character of a key that needs no quotes. -/
def isKeyChar (c : Char) : Bool :=
  c.isAlpha || c == '_'

theorem isBlank_of_isKeyChar {c : Char} (keyChar : isKeyChar c = true) : isBlank c = false := by
  have space : c ≠ ' ' := ne_of_class keyChar (by decide)
  have tab : c ≠ '\t' := ne_of_class keyChar (by decide)
  simp [isBlank, space, tab]

theorem isBreak_of_isKeyChar {c : Char} (keyChar : isKeyChar c = true) : isBreak c = false :=
  isBreak_eq_false keyChar (by decide) (by decide) (by decide)

/-- A key that needs no quotes and is short enough to be found at the colon behind it. -/
def IsWord (key : String) : Prop :=
  key.toList ≠ [] ∧ key.toList.all isKeyChar = true ∧ key.toList.length ≤ 1024

instance (key : String) : Decidable (IsWord key) :=
  inferInstanceAs (Decidable (_ ∧ _ ∧ _))

theorem IsWord.exists_cons {key : String} (isWord : IsWord key) :
    ∃ c cs, key.toList = c :: cs ∧ isKeyChar c = true := by
  obtain ⟨c, cs, split⟩ := List.exists_cons_of_ne_nil isWord.1
  have all := isWord.2.1
  rw [split, List.all_cons, Bool.and_eq_true] at all
  exact ⟨c, cs, split, all.1⟩

theorem readPlain_cons_of_isKeyChar (indent : Nat) (taken : List Char) (p : Position) {c : Char}
    (keyChar : isKeyChar c = true) (rest : List Char) :
    readPlain false indent taken .empty p (c :: rest) =
      readPlain false indent (c :: taken) .empty (p.skip 1) rest := by
  have colon : c ≠ ':' := ne_of_class keyChar (by decide)
  have goesOn : endsPlain false (c :: rest) = false := by
    rw [endsPlain]
    · rfl
    · intros
      contradiction
  rw [readPlain, isBlank_of_isKeyChar keyChar, isBreak_of_isKeyChar keyChar, goesOn]
  simp [Fold.isEmpty, Fold.empty, Fold.onto]

/-- A plain scalar that is a word ends at the colon behind it. -/
theorem readPlain_word (indent : Nat) (taken : List Char) (p : Position) {word rest : List Char}
    (isWord : word.all isKeyChar = true) (ends : atBlankOrEnd rest = true) :
    readPlain false indent taken .empty p (word ++ ':' :: rest) =
      some ⟨word.reverse ++ taken, .empty, ⟨':' :: rest, p.skip word.length⟩⟩ := by
  induction word generalizing taken p with
  | nil =>
      simp [readPlain, isBlank, isBreak, Fold.isEmpty, Fold.empty, endsPlain, ends, Position.skip]
  | cons c word ih =>
      rw [List.all_cons, Bool.and_eq_true] at isWord
      rw [List.cons_append, readPlain_cons_of_isKeyChar indent taken p isWord.1, ih _ _ isWord.2,
        Position.skip_skip, List.reverse_cons, List.append_assoc, List.singleton_append,
        List.length_cons, Nat.add_comm]

namespace Scan

/-! ## Gaps -/

/-- Whether a character ends the gap in front of it. -/
def startsToken (c : Char) : Bool :=
  !(isBreak c || isBlank c || c == '#' || c == '\ufeff')

theorem startsToken_of_isKeyChar {c : Char} (keyChar : isKeyChar c = true) :
    startsToken c = true := by
  have comment : c ≠ '#' := ne_of_class keyChar (by decide)
  have mark : c ≠ '\ufeff' := ne_of_class keyChar (by decide)
  simp [startsToken, isBlank_of_isKeyChar keyChar, isBreak_of_isKeyChar keyChar, comment, mark]

variable (inFlow keyAllowed : Bool) (p : Position)

theorem skipGap_of_startsToken {c : Char} (starts : startsToken c = true) (rest : List Char) :
    skipGap inFlow keyAllowed false p (c :: rest) = (keyAllowed, ⟨c :: rest, p⟩) := by
  simp only [startsToken, isBlank, Bool.not_eq_true', Bool.or_eq_false_iff, beq_eq_false_iff_ne]
    at starts
  obtain ⟨⟨⟨noBreak, space, tab⟩, comment⟩, mark⟩ := starts
  simp [skipGap, noBreak, space, tab, comment, mark]

theorem skipGap_replicate (n : Nat) (rest : List Char) :
    skipGap inFlow keyAllowed false p (List.replicate n ' ' ++ rest) =
      skipGap inFlow keyAllowed false (p.skip n) rest := by
  induction n generalizing p with
  | zero => rfl
  | succ n ih =>
      rw [List.replicate_succ, List.cons_append, skipGap, if_neg (by decide), if_neg (by decide),
        if_pos (.inl rfl), ih, Position.skip_skip, Nat.add_comm]

/-! ## Between tokens -/

/-- A scan in a block with no key undecided. -/
def inBlock (columns : List Nat) (read : List Token) (keyAllowed : Bool) (cursor : Cursor) : Scan :=
  ⟨cursor, columns, none, [], keyAllowed, (read.map Piece.token).reverse⟩

/-- A scan behind a word that may turn out to be a key. -/
def afterWord (columns : List Nat) (read : List Token) (key : String) (place : Position)
    (rest : List Char) : Scan :=
  ⟨⟨rest, place.skip key.toList.length⟩, columns,
    some ⟨place, columns.head? == some place.column⟩, [], false,
    .token (.scalar key true) :: .place place :: (read.map Piece.token).reverse⟩

variable (columns : List Nat) (read : List Token) (cursor : Cursor)

@[simp] theorem column_inBlock :
    (inBlock columns read keyAllowed cursor).column = cursor.position.column := rfl

theorem tokens_inBlock : (inBlock columns read keyAllowed cursor).tokens = read := by
  have back : Piece.token? ∘ Piece.token = some := rfl
  rw [tokens, inBlock, List.filterMap_reverse, List.reverse_reverse, List.filterMap_map, back,
    List.filterMap_some]

theorem toNextToken_inBlock {keyAllowed' : Bool} {next : Cursor}
    (gap : skipGap false keyAllowed false cursor.position cursor.rest = (keyAllowed', next)) :
    (inBlock columns read keyAllowed cursor).toNextToken =
      inBlock columns read keyAllowed' next := by
  simp [toNextToken, inBlock, inFlow, gap]

theorem dropStale?_inBlock :
    (inBlock columns read keyAllowed cursor).dropStale? =
      some (inBlock columns read keyAllowed cursor) := rfl

/-- The blocks that a scan closes are noted one after another. -/
theorem closeBlocks_inBlock (closes : Nat → Bool) :
    (inBlock columns read keyAllowed cursor).closeBlocks closes =
      inBlock (columns.dropWhile closes)
        (read ++ (columns.takeWhile closes).map fun _ => .blockEnd) keyAllowed cursor := by
  simp [inBlock, closeBlocks, inFlow, List.map_const']

/-- Where no open block is further to the right, none is closed. -/
theorem closeBlocks_eq_self (s : Scan) (fits : ∀ c ∈ s.columns.head?, c ≤ s.column) :
    (s.closeBlocks fun open_ => s.column < open_) = s := by
  obtain ⟨cursor, columns, candidate, outer, keyAllowed, pieces⟩ := s
  cases columns with
  | nil => simp [closeBlocks]
  | cons c columns =>
      have stays : ¬ cursor.position.column < c := Nat.not_lt.mpr (fits c rfl)
      simp [closeBlocks, column, Cursor.column, stays]

/-! ## A word and its colon -/

theorem dropStale?_afterWord {key : String} (short : key.toList.length ≤ 1024) (place : Position)
    (rest : List Char) :
    (afterWord columns read key place rest).dropStale? =
      some (afterWord columns read key place rest) := by
  have fresh : isStale (place.skip key.toList.length)
      ⟨place, columns.head? == some place.column⟩ = false := by
    simp [isStale, Position.skip]
    omega
  simp [dropStale?, afterWord, freshen?, fresh]

theorem readPlain?_word {key : String} (isWord : key.toList.all isKeyChar = true)
    {rest : List Char} (ends : atBlankOrEnd rest = true) :
    (inBlock columns read true ⟨key.toList ++ ':' :: rest, p⟩).readPlain? =
      some (afterWord columns read key p (':' :: rest)) := by
  have scalar (indent : Nat) := readPlain_word indent [] p isWord ends
  have unbroken : Fold.isBroken .empty = false := rfl
  simp [readPlain?, noteKey?, dropKey?, inBlock, inFlow, column, Cursor.column, allowKey, emit,
    scalar, unbroken, afterWord]

theorem readToken?_word {key : String} (isWord : IsWord key) {rest : List Char}
    (ends : atBlankOrEnd rest = true) :
    (inBlock columns read true ⟨key.toList ++ ':' :: rest, p⟩).readToken? =
      some (afterWord columns read key p (':' :: rest)) := by
  rw [← readPlain?_word p columns read isWord.2.1 ends]
  obtain ⟨c, cs, split, keyChar⟩ := isWord.exists_cons
  have percent : c ≠ '%' := ne_of_class keyChar (by decide)
  have noMark : atDocumentMark (c :: (cs ++ ':' :: rest)) = false := by
    have dash : c ≠ '-' := ne_of_class keyChar (by decide)
    have dot : c ≠ '.' := ne_of_class keyChar (by decide)
    rw [atDocumentMark]
    · intro _ mark
      exact dash (List.cons.inj mark).1
    · intro _ mark
      exact dot (List.cons.inj mark).1
  simp only [readToken?, inBlock, split, List.cons_append, percent, noMark, and_false, if_false,
    Bool.false_eq_true]
  split
  all_goals first | rfl | exact absurd keyChar (by decide)

/-- Whether a block mapping begins with a key at a column. -/
def opens (columns : List Nat) (column : Nat) : Bool :=
  columns.head?.all (· < column)

/-- The open columns behind the colon of a key. -/
def columnsBehind (columns : List Nat) (column : Nat) : List Nat :=
  if opens columns column then column :: columns else columns

def keyTokens (columns : List Nat) (column : Nat) (key : String) : List Token :=
  (if opens columns column then [.blockMappingStart] else []) ++
    [.key, .scalar key true, .value]

theorem leastIndent_le_iff (s : Scan) (column : Nat) :
    s.leastIndent ≤ column ↔ opens s.columns column = true := by
  obtain ⟨cursor, columns, candidate, outer, keyAllowed, pieces⟩ := s
  cases columns with
  | nil => simp [leastIndent, opens]
  | cons c columns => exact decide_eq_true_iff.symm

/-- What has been read as tokens stays when a word becomes a key. -/
theorem flatMap_tokens {f : Piece → List Piece} (keeps : ∀ t, f (.token t) = [.token t])
    (read : List Token) :
    (read.map Piece.token).reverse.flatMap f = (read.map Piece.token).reverse := by
  rw [← List.map_reverse]
  induction read.reverse with
  | nil => rfl
  | cons t ts ih => rw [List.map_cons, List.flatMap_cons, keeps, ih, List.singleton_append]

theorem settleKey_afterWord (key : String) (rest : List Char) (required : Bool) :
    (afterWord columns read key p rest).settleKey ⟨p, required⟩ =
      inBlock (columnsBehind columns p.column)
        (read ++ (if opens columns p.column then [.blockMappingStart] else []) ++
          [.key, .scalar key true]) false ⟨rest, p.skip key.toList.length⟩ := by
  have least := leastIndent_le_iff (afterWord columns read key p rest) p.column
  have word : Piece.isAt p (.token (.scalar key true)) = false := rfl
  have place : Piece.isAt p (.place p) = true := beq_self_eq_true p
  have others (tokens : List Token) := flatMap_tokens
    (f := fun piece => if piece.isAt p then tokens.map .token else [piece]) (fun _ => rfl) read
  simp only [settleKey, least]
  simp only [afterWord, inFlow, inBlock, columnsBehind, List.flatMap_cons, word, place, others]
  by_cases opening : opens columns p.column = true
  · simp [opening]
  · simp [opening]

/-- At the colon the word becomes a key, and a mapping begins with it unless one is open. -/
theorem readToken?_colon (key : String) {rest : List Char} (ends : atBlankOrEnd rest = true) :
    (afterWord columns read key p (':' :: rest)).readToken? =
      some (inBlock (columnsBehind columns p.column) (read ++ keyTokens columns p.column key) false
        ⟨rest, p.skip (key.toList.length + 1)⟩) := by
  have value : (afterWord columns read key p (':' :: rest)).readToken? =
      (afterWord columns read key p (':' :: rest)).readValue? := by
    simp [readToken?, afterWord, atDocumentMark, ends]
  have candidate : (afterWord columns read key p (':' :: rest)).candidate =
      some ⟨p, columns.head? == some p.column⟩ := rfl
  rw [value, readValue?, candidate]
  dsimp only
  rw [settleKey_afterWord]
  simp [inBlock, allowKey, emit, skip, Cursor.skip, keyTokens, Position.skip_skip]

/-! ## Steps -/

/-- A word at the start of a line closes the blocks that are open further to the right. -/
theorem next?_word {key : String} (isWord : IsWord key) (line indent : Nat) {rest : List Char}
    (ends : atBlankOrEnd rest = true) :
    (inBlock columns read true
        ⟨List.replicate indent ' ' ++ (key.toList ++ ':' :: rest), ⟨line, 0⟩⟩).next? =
      some (afterWord (columns.dropWhile (indent < ·))
        (read ++ (columns.takeWhile (indent < ·)).map fun _ => .blockEnd) key ⟨line, indent⟩
        (':' :: rest)) := by
  obtain ⟨c, cs, split, keyChar⟩ := isWord.exists_cons
  have gap : skipGap false true false ⟨line, 0⟩
      (List.replicate indent ' ' ++ (key.toList ++ ':' :: rest)) =
        (true, ⟨key.toList ++ ':' :: rest, ⟨line, indent⟩⟩) := by
    rw [skipGap_replicate, split, List.cons_append,
      skipGap_of_startsToken _ _ _ (startsToken_of_isKeyChar keyChar), Position.skip, Nat.zero_add]
  rw [next?, toNextToken_inBlock _ _ _ _ gap, dropStale?_inBlock]
  simp only [Option.bind_eq_bind, Option.bind_some, column_inBlock, closeBlocks_inBlock,
    readToken?_word _ _ _ isWord ends, dropStale?_afterWord _ _ isWord.2.2]
  rfl

/-- A colon behind a word ends the key, in the block that the word begins or goes on. -/
theorem next?_colon {key : String} (short : key.toList.length ≤ 1024) {rest : List Char}
    (ends : atBlankOrEnd rest = true) (fits : ∀ c ∈ columns.head?, c ≤ p.column) :
    (afterWord columns read key p (':' :: rest)).next? =
      some (inBlock (columnsBehind columns p.column) (read ++ keyTokens columns p.column key) false
        ⟨rest, p.skip (key.toList.length + 1)⟩) := by
  have starts : (afterWord columns read key p (':' :: rest)).toNextToken =
      afterWord columns read key p (':' :: rest) := by
    simp [toNextToken, afterWord, skipGap_of_startsToken _ _ _ (c := ':') rfl]
  have stays := closeBlocks_eq_self (afterWord columns read key p (':' :: rest))
    fun c member => Nat.le_trans (fits c member) (Nat.le_add_right _ _)
  rw [next?, starts, dropStale?_afterWord _ _ short]
  simp only [Option.bind_eq_bind, Option.bind_some, stays, readToken?_colon _ _ _ key ends,
    dropStale?_inBlock]

theorem readToken?_doubleQuoted (text : String) (rest : List Char) :
    (inBlock columns read false ⟨doubleQuoted text ++ rest, p⟩).readToken? =
      some (inBlock columns (read ++ [.scalar text false]) false
        ⟨rest, p.skip (doubleQuoted text).length⟩) := by
  have behind : (p.skip 1).skip ((text.toList.flatMap doubleQuotedChar).length + 1) =
      p.skip (doubleQuoted text).length := by
    rw [Position.skip_skip, doubleQuoted, List.length_append, List.length_cons,
      List.length_singleton]
    exact congrArg p.skip (by omega)
  have scalar := readDoubleQuoted_flatMap [] [] text.toList rest (p := p.skip 1) (Nat.succ_pos _)
  rw [behind] at scalar
  rw [doubleQuoted_append]
  simp [readToken?, readQuoted?, noteKey?, inBlock, atDocumentMark, Cursor.skip, Fold.empty, scalar,
    allowKey, emit]

/-- A double-quoted scalar on the line of its key. -/
theorem next?_doubleQuoted (text : String) (rest : List Char)
    (fits : ∀ c ∈ columns.head?, c ≤ p.column) :
    (inBlock columns read false ⟨' ' :: (doubleQuoted text ++ rest), p⟩).next? =
      some (inBlock columns (read ++ [.scalar text false]) false
        ⟨rest, p.skip ((doubleQuoted text).length + 1)⟩) := by
  have gap : skipGap false false false p (' ' :: (doubleQuoted text ++ rest)) =
      (false, ⟨doubleQuoted text ++ rest, p.skip 1⟩) := by
    have blank := skipGap_replicate false false p 1 (doubleQuoted text ++ rest)
    rw [List.replicate_one, List.singleton_append] at blank
    rw [blank, doubleQuoted_append, skipGap_of_startsToken _ _ _ (c := '"') rfl]
  have stays := closeBlocks_eq_self
    (inBlock columns read false ⟨doubleQuoted text ++ rest, p.skip 1⟩)
    fun c member => Nat.le_succ_of_le (fits c member)
  rw [next?, toNextToken_inBlock _ _ _ _ gap, dropStale?_inBlock]
  simp only [Option.bind_eq_bind, Option.bind_some, stays, readToken?_doubleQuoted,
    dropStale?_inBlock, Position.skip_skip, Nat.add_comm]

theorem readToken?_end :
    (inBlock columns read keyAllowed ⟨[], p⟩).readToken? =
      some (inBlock [] (read ++ (columns.map fun _ => .blockEnd) ++ [.streamEnd]) false
        ⟨[], p⟩) := by
  have ends : (inBlock columns read keyAllowed ⟨[], p⟩).readToken? =
      (inBlock columns read keyAllowed ⟨[], p⟩).readEnd? := rfl
  have all : columns.takeWhile (fun _ => true) = columns :=
    List.takeWhile_eq_self_iff.mpr fun _ _ => rfl
  have none : columns.dropWhile (fun _ => true) = [] :=
    List.dropWhile_eq_nil_iff.mpr fun _ _ => rfl
  rw [ends, readEnd?, closeBlocks_inBlock, all, none]
  simp [dropKey?, inBlock, allowKey, emit]

/-- At the end of the text all blocks are closed. -/
theorem next?_end :
    (inBlock columns read true ⟨[], p⟩).next? =
      some (inBlock [] (read ++ (columns.map fun _ => .blockEnd) ++ [.streamEnd]) false
        ⟨[], p⟩) := by
  have gap : skipGap false true false p [] = (true, ⟨[], p⟩) := rfl
  rw [next?, toNextToken_inBlock _ _ _ _ gap, dropStale?_inBlock]
  simp only [Option.bind_eq_bind, Option.bind_some, closeBlocks_inBlock, readToken?_end,
    dropStale?_inBlock]
  rw [List.append_assoc read, ← List.map_append, List.takeWhile_append_dropWhile]

end Scan

end StatusLookup.Yaml
