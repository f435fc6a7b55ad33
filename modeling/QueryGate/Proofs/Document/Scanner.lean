import QueryGate.Proofs.Document.Lexing
import QueryGate.Proofs.Text.Bytes

/-!
Splitting a document by offsets.

The scanner goes over the bytes of a document and keeps offsets of it in place of
lexemes: where a section began and where its last brace closed at the top level. It
takes the text of a section as a slice of the document, and every byte that it
reads, every slice that it takes and every round of its loops is checked.
-/

namespace QueryGate.Document

open QueryGate.Text

/-- The offset of the first occurrence of a text in another one. -/
def find? (sought text : List Char) : Option Nat :=
  (splitOnce sought text).map fun cut => byteSize cut.1

/-- The word that a text begins with. -/
def wordOf (text : List Char) : Except Fault (List Char) :=
  slice text 0 ((bytes text).findIdx (!isWordChar ·))

/-- The word after the first word of a text. -/
def nameOf (text : List Char) : Except Fault (List Char) := do
  let start := trimStart text
  let keyword ← wordOf start
  if keyword.isEmpty then .ok []
  else wordOf (trimStart (← slice start (byteSize keyword) (byteSize start)))

/-- The operation that a text begins with. -/
def operationOf (text : List Char) : Except Fault (Option Operation) := do
  let start := trimStart text
  if ['{'].isPrefixOf start then .ok (some .query)
  else .ok (Operation.ofKeyword? (← wordOf start))

theorem findIdx_bytes (text : List Char) :
    (bytes text).findIdx (!isWordChar ·) = byteSize (leadingWord text) := by
  induction text with
  | nil => rfl
  | cons c text ih =>
      rw [bytes_cons, leadingWord]
      by_cases hc : isWordChar c = true
      · have hascii : IsAscii c := isAscii_of_isWordChar hc
        have hword : byteSize (c :: leadingWord text) =
            byteSize (leadingWord text) + 1 := by
          rw [byteSize_cons, utf8Size_of_isAscii hascii, Nat.add_comm]
        rw [charBytes_of_isAscii hascii, List.singleton_append,
          List.findIdx_cons, hc, List.takeWhile_cons_of_pos hc, ih]
        exact hword.symm
      · obtain ⟨byte, others, hbytes⟩ :=
          List.exists_cons_of_ne_nil (charBytes_ne_nil c)
        have hbyte : isWordChar byte = false := by
          rw [isWordChar_of_mem_charBytes (hbytes ▸ List.mem_cons_self)]
          exact Bool.eq_false_iff.mpr hc
        rw [hbytes, List.cons_append, List.findIdx_cons, hbyte,
          List.takeWhile_cons_of_neg hc]
        rfl

theorem wordOf_eq (text : List Char) : wordOf text = .ok (leadingWord text) := by
  have hslice := slice_append [] (leadingWord text) (afterLeadingWord text)
  rw [List.nil_append, leadingWord_append_afterLeadingWord, byteSize_nil,
    Nat.zero_add] at hslice
  rw [wordOf, findIdx_bytes, hslice]

theorem nameOf_eq (text : List Char) : nameOf text = .ok (definedName text) := by
  have hrest : slice (trimStart text) (byteSize (leadingWord (trimStart text)))
      (byteSize (trimStart text)) = .ok (afterLeadingWord (trimStart text)) := by
    have hslice :=
      slice_rest (leadingWord (trimStart text)) (afterLeadingWord (trimStart text))
    rwa [leadingWord_append_afterLeadingWord] at hslice
  simp only [nameOf, definedName, wordOf_eq, ok_bind, hrest]
  split <;> rfl

theorem operationOf_eq (text : List Char) :
    operationOf text = .ok (Operation.detect text) := by
  simp only [operationOf, Operation.detect, wordOf_eq, ok_bind]
  cases hstart : trimStart text with
  | nil => rfl
  | cons c rest =>
      by_cases hc : c = '{'
      · subst hc
        rfl
      · have hbrace : ['{'].isPrefixOf (c :: rest) = false := by
          rw [List.isPrefixOf_cons_cons, beq_false_of_ne (Ne.symm hc),
            Bool.false_and]
        rw [if_neg (Bool.eq_false_iff.mp hbrace)]
        split
        · next hopen => exact absurd (List.cons.inj hopen).1 hc
        · rfl

/-- A round of the loop for block strings. A backslash keeps the quotes behind it
from closing. -/
def blockRound (text : List Char) (offset : Nat) (_ : Unit) :
    Except Fault (Round Unit Nat) := do
  if blockQuotes.isPrefixOf (← bytesFrom text offset) then
    if (← byteBefore text offset) = '\\' then .ok (.next (offset + 1) ())
    else .ok (.done (offset + 3))
  else .ok (.next (offset + 1) ())

/-- A round of the loop for quoted strings. Two bytes are passed at a backslash,
whatever the second one is and whether or not there is one. -/
def quotedRound (text : List Char) (offset : Nat) (_ : Unit) :
    Except Fault (Round Unit Nat) := do
  let byte ← byteAt text offset
  if byte = '\\' then .ok (.next (offset + 2) ())
  else if byte = '"' then .ok (.done (offset + 1))
  else if byte = '\n' then .ok (.done offset)
  else .ok (.next (offset + 1) ())

/-- Where the literal ends that begins at an offset. -/
def literalEnd (text : List Char) (offset : Nat) : Except Fault Nat := do
  let unended := fun _ : Unit => byteSize text
  if blockQuotes.isPrefixOf (← bytesFrom text offset) then
    rounds (byteSize text) (blockRound text) unended (offset + 3) ()
  else rounds (byteSize text) (quotedRound text) unended (offset + 1) ()

theorem isAscii_of_mem_blockQuotes : ∀ c ∈ blockQuotes, IsAscii c := by
  simp only [blockQuotes, List.forall_mem_cons, List.not_mem_nil,
    IsEmpty.forall_iff, implies_true]
  decide

section Ends

variable {text before rest : List Char} {c : Char} {offset : Nat}

/-- Within a character no quote begins, unless the character is one. -/
theorem blockRound_within (hc : c ≠ '"') (htext : text = before ++ c :: rest)
    (hfirst : byteSize before ≤ offset)
    (hlast : offset < byteSize (before ++ [c])) :
    blockRound text offset () = .ok (.next (offset + 1) ()) := by
  obtain ⟨byte, hbyte, hat⟩ := exists_byteAt rest hfirst hlast
  obtain ⟨others, hfrom⟩ := exists_bytesFrom hat
  have hquote : byte ≠ '"' := fun heq =>
    hc ((eq_iff_of_mem_charBytes (by decide) hbyte).mp heq)
  have hquotes : blockQuotes.isPrefixOf (byte :: others) = false := by
    rw [blockQuotes, List.isPrefixOf_cons_cons, beq_false_of_ne (Ne.symm hquote),
      Bool.false_and]
  rw [blockRound, htext, hfrom, ok_bind, hquotes]
  rfl

/-- Behind a character the loop ends where quotes follow and the character is no
backslash. -/
theorem blockRound_behind (htext : text = before ++ c :: rest) :
    blockRound text (byteSize (before ++ [c])) () = .ok
      (if c != '\\' && blockQuotes.isPrefixOf rest
        then .done (byteSize (before ++ [c]) + 3)
      else .next (byteSize (before ++ [c]) + 1) ()) := by
  have hfrom : bytesFrom text (byteSize (before ++ [c])) = .ok (bytes rest) := by
    rw [htext, List.append_cons]
    exact bytesFrom_append (before ++ [c]) rest
  obtain ⟨byte, hbyte, hat⟩ := exists_byteBefore before rest c
  have hescape : byte = '\\' ↔ c = '\\' := eq_iff_of_mem_charBytes (by decide) hbyte
  rw [blockRound, hfrom, ok_bind, isPrefixOf_bytes isAscii_of_mem_blockQuotes,
    htext, hat, ok_bind]
  by_cases hquotes : blockQuotes.isPrefixOf rest = true
  · by_cases hc : c = '\\'
    · rw [if_pos hquotes, if_pos (hescape.mpr hc), if_neg (by simp [hc])]
    · rw [if_pos hquotes, if_neg (hescape.not.mpr hc),
        if_pos (by simp [hc, hquotes])]
  · rw [if_neg hquotes, if_neg (by simp [hquotes])]

/-- The loop for block strings comes to the end of the block string behind a
character. -/
theorem rounds_blockRound (c : Char) (s : List Char)
    (htext : text = before ++ c :: s) :
    rounds (byteSize text) (blockRound text) (fun _ => byteSize text)
      (byteSize (before ++ [c])) () =
        .ok (byteSize (before ++ c :: (blockRest c s).1)) := by
  fun_induction blockRest c s generalizing before with
  | case1 c => rw [rounds_of_le (by rw [htext]), htext]
  | case2 c d s h =>
      change (c != '\\' && blockQuotes.isPrefixOf (d :: s)) = true at h
      have hround := blockRound_behind htext
      have hquotes : (d :: s).take 3 = blockQuotes := by
        obtain ⟨rest, hrest⟩ :=
          List.isPrefixOf_iff_prefix.mp (Bool.and_eq_true_iff.mp h).2
        rw [← hrest]
        rfl
      rw [if_pos h] at hround
      have hsize : byteSize (before ++ [c]) < byteSize text := by
        rw [htext, List.append_cons before c (d :: s)]
        exact byteSize_lt_append _ (List.cons_ne_nil d s)
      rw [rounds_done hsize hround, hquotes, List.append_cons before c blockQuotes,
        byteSize_append (before ++ [c]) blockQuotes]
      rfl
  | case3 c d s h cut =>
      rename_i ih
      change ¬ (c != '\\' && blockQuotes.isPrefixOf (d :: s)) = true at h
      have hround := blockRound_behind htext
      have hbehind : text = before ++ [c] ++ d :: s := by
        rw [htext, List.append_cons before c (d :: s)]
      rw [if_neg h] at hround
      have hpassed : rounds (byteSize text) (blockRound text)
        (fun _ => byteSize text)
          (byteSize (before ++ [c])) () = rounds (byteSize text) (blockRound text)
          (fun _ => byteSize text) (byteSize (before ++ [c] ++ [d])) () := by
        by_cases hd : d = '"'
        · subst hd
          have hsize : byteSize (before ++ [c]) < byteSize text := by
            rw [hbehind]
            exact byteSize_lt_append _ (List.cons_ne_nil _ s)
          rw [byteSize_append (before ++ [c]) ['"']]
          exact rounds_next hsize hround (Nat.lt_succ_self _)
        · exact rounds_char hbehind fun offset hfirst hlast =>
            blockRound_within hd hbehind hfirst hlast
      rw [hpassed, ih hbehind, List.append_cons before c (d :: cut.1)]

theorem quotedRound_plain {byte : Char} (hat : byteAt text offset = .ok byte)
    (hquote : byte ≠ '"') (hline : byte ≠ '\n') (hescape : byte ≠ '\\') :
    quotedRound text offset () = .ok (.next (offset + 1) ()) := by
  rw [quotedRound, hat, ok_bind, if_neg hescape, if_neg hquote, if_neg hline]

/-- A character that is no sign of the loop for quoted strings is passed byte by
byte. -/
theorem rounds_plain (htext : text = before ++ c :: rest) (hquote : c ≠ '"')
    (hline : c ≠ '\n') (hescape : c ≠ '\\') :
    rounds (byteSize text) (quotedRound text)
    (fun _ => byteSize text) (byteSize before) () =
      rounds (byteSize text) (quotedRound text) (fun _ => byteSize text)
        (byteSize (before ++ [c])) () := by
  refine rounds_char htext fun offset hfirst hlast => ?_
  obtain ⟨byte, hbyte, hat⟩ := exists_byteAt rest hfirst hlast
  rw [← htext] at hat
  exact quotedRound_plain hat
    ((eq_iff_of_mem_charBytes (by decide) hbyte).not.mpr hquote)
    ((eq_iff_of_mem_charBytes (by decide) hbyte).not.mpr hline)
    ((eq_iff_of_mem_charBytes (by decide) hbyte).not.mpr hescape)

/-- Behind a backslash the loop is two bytes further, which may be within the next
character or behind the text. -/
theorem rounds_backslash (htext : text = before ++ '\\' :: rest) :
    rounds (byteSize text) (quotedRound text)
    (fun _ => byteSize text) (byteSize before) () =
      rounds (byteSize text) (quotedRound text) (fun _ => byteSize text)
        (byteSize before + 2) () := by
  have hsize : byteSize before < byteSize text := by
    rw [htext]
    exact byteSize_lt_append before (List.cons_ne_nil _ rest)
  have hround : quotedRound text (byteSize before) () =
      .ok (.next (byteSize before + 2) ()) := by
    rw [quotedRound, htext, byteAt_append before rest (by decide), ok_bind]
    rfl
  exact rounds_next hsize hround (Nat.lt_add_of_pos_right (by decide))

/-- What is left of a character behind a backslash is passed byte by byte. -/
theorem rounds_escaped (htext : text = before ++ '\\' :: c :: rest) :
    rounds (byteSize text) (quotedRound text)
    (fun _ => byteSize text) (byteSize before + 2) () =
      rounds (byteSize text) (quotedRound text) (fun _ => byteSize text)
        (byteSize (before ++ ['\\', c])) () := by
  have hbehind : text = before ++ ['\\'] ++ c :: rest := by
    rw [htext, List.append_cons before '\\' (c :: rest)]
  have hmark : byteSize (before ++ ['\\']) = byteSize before + 1 :=
    byteSize_append before ['\\']
  have hlast : byteSize (before ++ ['\\', c]) =
      byteSize before + 1 + c.utf8Size := by
    rw [List.append_cons before '\\' [c], byteSize_append (before ++ ['\\']), hmark,
      byteSize_cons]
    rfl
  have hwhole : byteSize text = byteSize before + 1 + c.utf8Size +
      byteSize rest := by
    rw [hbehind, byteSize_append (before ++ ['\\']), byteSize_cons, hmark]
    omega
  have hpos := c.utf8Size_pos
  refine rounds_bytes (by omega) (by omega) fun offset hfirst hoffset => ?_
  have hwithin : byteSize (before ++ ['\\']) ≤ offset := by omega
  have hbefore : offset < byteSize (before ++ ['\\'] ++ [c]) := by
    rw [List.append_assoc]
    exact hoffset
  obtain ⟨byte, hbyte, hat⟩ := exists_byteAt rest hwithin hbefore
  have hother : ¬ IsAscii byte := by
    refine not_isAscii_of_mem_charBytes (fun hc => ?_) byte hbyte
    have hone := utf8Size_of_isAscii hc
    omega
  rw [← hbehind] at hat
  exact quotedRound_plain hat (fun h => hother (h ▸ by decide))
    (fun h => hother (h ▸ by decide))
    fun h => hother (h ▸ by decide)

/-- The loop for quoted strings comes to the end of the string behind its quote. -/
theorem rounds_quotedRound (s : List Char) (htext : text = before ++ s) :
    rounds (byteSize text) (quotedRound text)
    (fun _ => byteSize text) (byteSize before) () =
      .ok (byteSize (before ++ (quotedRest s).1)) := by
  have hsize : s ≠ [] → byteSize before < byteSize text := by
    rw [htext]
    exact byteSize_lt_append before
  fun_induction quotedRest s generalizing before with
  | case1 => rw [rounds_of_le (by simp [htext]), htext]
  | case2 rest =>
      have hround : quotedRound text (byteSize before) () =
          .ok (.done (byteSize before + 1)) := by
        rw [quotedRound, htext, byteAt_append before rest (by decide), ok_bind]
        rfl
      rw [rounds_done (hsize (List.cons_ne_nil _ _)) hround, byteSize_append]
      rfl
  | case3 rest =>
      have hround : quotedRound text (byteSize before) () =
          .ok (.done (byteSize before)) := by
        rw [quotedRound, htext, byteAt_append before rest (by decide), ok_bind]
        rfl
      rw [rounds_done (hsize (List.cons_ne_nil _ _)) hround, List.append_nil]
  | case4 c rest cut =>
      rename_i ih
      have hbehind : text = before ++ ['\\', c] ++ rest := by rw [htext]; simp
      rw [rounds_backslash htext, rounds_escaped htext,
        ih hbehind (hbehind ▸ byteSize_lt_append _)]
      simp [cut]
  | case5 c rest hquote hline hescape cut =>
      rename_i ih
      have hbehind : text = before ++ [c] ++ rest := by
        rw [htext, List.append_cons before c rest]
      by_cases hc : c = '\\'
      · subst hc
        cases rest with
        | nil =>
            have hwhole : byteSize text = byteSize before + 1 := by
              rw [htext]
              exact byteSize_append before ['\\']
            rw [rounds_backslash htext, rounds_of_le (hwhole ▸ Nat.le_succ _),
              htext]
            rfl
        | cons d rest => exact absurd rfl (hescape d rest rfl)
      · rw [rounds_plain htext hquote hline hc,
          ih hbehind (hbehind ▸ byteSize_lt_append _),
          List.append_cons before c cut.1]

/-- A round of the loop for quoted strings ends it or moves on, wherever it
begins. -/
theorem quotedRound_moves_on (h : offset < byteSize text) :
    (∃ last, quotedRound text offset () = .ok (.done last)) ∨
      ∃ further, quotedRound text offset () = .ok (.next further ()) ∧
        offset < further := by
  obtain ⟨byte, hat⟩ := exists_byteAt_of_lt h
  rw [quotedRound, hat, ok_bind]
  split_ifs
  · exact Or.inr ⟨_, rfl, Nat.lt_add_of_pos_right (by decide)⟩
  · exact Or.inl ⟨_, rfl⟩
  · exact Or.inl ⟨_, rfl⟩
  · exact Or.inr ⟨_, rfl, Nat.lt_succ_self offset⟩

/-- A round of the loop for block strings does wherever there is a byte before
it. -/
theorem blockRound_moves_on (hpos : 0 < offset) (h : offset < byteSize text) :
    (∃ last, blockRound text offset () = .ok (.done last)) ∨
      ∃ further, blockRound text offset () = .ok (.next further ()) ∧
        offset < further := by
  obtain ⟨byte, hat⟩ := exists_byteAt_of_lt h
  obtain ⟨others, hfrom⟩ := exists_bytesFrom hat
  obtain ⟨earlier, rfl⟩ := Nat.exists_eq_add_one_of_ne_zero (Nat.ne_of_gt hpos)
  obtain ⟨before, hbefore⟩ := exists_byteAt_of_lt (Nat.lt_of_succ_lt h)
  rw [blockRound, hfrom, ok_bind, byteBefore, hbefore, ok_bind]
  split_ifs
  · exact Or.inr ⟨_, rfl, Nat.lt_succ_self _⟩
  · exact Or.inl ⟨_, rfl⟩
  · exact Or.inr ⟨_, rfl, Nat.lt_succ_self _⟩

/-- A literal ends where its lexeme does. -/
theorem literalEnd_eq (htext : text = before ++ '"' :: rest) :
    literalEnd text (byteSize before) =
      .ok (byteSize (before ++ (literalFrom rest).1.chars)) := by
  have hfrom : bytesFrom text (byteSize before) = .ok (bytes ('"' :: rest)) := by
    rw [htext]
    exact bytesFrom_append before ('"' :: rest)
  have hquotes : blockQuotes.isPrefixOf ('"' :: rest) =
      ['"', '"'].isPrefixOf rest := by
    rw [blockQuotes, List.isPrefixOf_cons_cons, BEq.rfl, Bool.true_and]
  rw [literalEnd, hfrom, ok_bind, isPrefixOf_bytes isAscii_of_mem_blockQuotes,
    hquotes, literalFrom]
  split
  · next h =>
      obtain ⟨inner, rfl⟩ := List.isPrefixOf_iff_prefix.mp h
      have hbehind : text = (before ++ ['"', '"']) ++ '"' :: inner := by
        rw [htext]; simp
      have hopen : byteSize before + 3 =
          byteSize (before ++ ['"', '"'] ++ ['"']) := by
        rw [List.append_assoc, byteSize_append]
        rfl
      rw [hopen, rounds_blockRound '"' inner hbehind]
      simp [Lexeme.chars]
  · have hbehind : text = before ++ ['"'] ++ rest := by
      rw [htext, List.append_cons before '"' rest]
    have hopen : byteSize before + 1 = byteSize (before ++ ['"']) :=
      (byteSize_append before ['"']).symm
    rw [hopen, rounds_quotedRound rest hbehind, Lexeme.chars,
      List.append_cons before '"' (quotedRest rest).1]

/-- A line ends before the first line end behind an offset, or with the text. -/
theorem find?_newline (htext : text = before ++ rest) :
    ((find? ['\n'] rest).map (byteSize before + ·)).getD (byteSize text) =
      byteSize (before ++ rest.takeWhile (· != '\n')) := by
  have hstops : ∀ {body : List Char}, '\n' ∉ body →
      ∀ c ∈ body, (c != '\n') = true := by
    intro body hbody c hc
    rw [bne_iff_ne]
    rintro rfl
    exact hbody hc
  rw [find?, htext]
  by_cases hline : '\n' ∈ rest
  · obtain ⟨body, after, rfl, hbody⟩ := List.eq_append_cons_of_mem hline
    have hcut : splitOnce ['\n'] (body ++ '\n' :: after) = some (body, after) :=
      splitOnce_char_eq_some_iff.mpr ⟨rfl, hbody⟩
    rw [hcut, takeWhile_append_of_stops (hstops hbody) fun c hc => by cases hc; rfl]
    exact (byteSize_append before body).symm
  · have hcut : splitOnce ['\n'] rest = none := by
      rw [Option.eq_none_iff_forall_ne_some]
      rintro ⟨body, after⟩ hcut
      exact hline ((splitOnce_char_eq_some_iff.mp hcut).1 ▸ by simp)
    have hwhole : (rest ++ []).takeWhile (· != '\n') = rest :=
      takeWhile_append_of_stops (hstops hline) fun c hc => by cases hc
    rw [List.append_nil] at hwhole
    rw [hcut, hwhole]
    rfl

end Ends

/-- A section that is being read: where its text begins, and where its last closing
brace at the top level ends. -/
structure OpenSpan where
  kind : SectionKind
  first : Nat
  last : Option Nat
deriving DecidableEq, Repr

/-- What the scanner has found so far. -/
structure Scan where
  vars : List Char := []
  query : List Char := []
  fragments : List Fragment := []
  comments : List (List Char) := []
  current : Option OpenSpan := none
  depth : Nat := 0
  parens : Nat := 0
deriving DecidableEq, Repr

namespace Scan

/-- Keeps the body of a comment between two offsets. -/
def comment (text : List Char) (first last : Nat) (s : Scan) :
    Except Fault Scan := do
  if s.depth = 0 then
    let body ← slice text first last
    .ok { s with comments := s.comments ++ [trim body] }
  else .ok s

/-- A comment begins at an offset that goes on to the end of the line. -/
def lineComment (text : List Char) (offset : Nat) (s : Scan) :
    Except Fault (Round Scan Scan) := do
  let rest ← slice text offset (byteSize text)
  let last := ((find? ['\n'] rest).map (offset + ·)).getD (byteSize text)
  .ok (.next last (← s.comment text (offset + 1) last))

/-- A comment begins at an offset that goes on to its closing mark. -/
def blockComment (text : List Char) (offset : Nat) (s : Scan) :
    Except Fault (Round Scan Scan) := do
  let rest ← slice text (offset + 2) (byteSize text)
  match find? ['*', '/'] rest with
  | some length =>
      .ok (.next (offset + 4 + length)
        (← s.comment text (offset + 2) (offset + 2 + length)))
  | none =>
      .ok (.next (byteSize text) (← s.comment text (offset + 2) (byteSize text)))

/-- Ends the section that is being read. -/
def close (text : List Char) (s : Scan) : Except Fault Scan :=
  match s.current with
  | none => .ok s
  | some ⟨_, _, none⟩ => .ok { s with current := none }
  | some ⟨kind, first, some last⟩ => do
      let value := trim (← slice text first last)
      match kind with
      | .vars => .ok { s with vars := value, current := none }
      | .operation => .ok { s with query := value, current := none }
      | .fragment =>
          let name ← nameOf value
          let fragment := ⟨String.ofList name, String.ofList value⟩
          .ok { s with fragments := s.fragments ++ [fragment], current := none }

/-- A brace opens at an offset. -/
def openBrace (offset : Nat) (s : Scan) : Scan :=
  { s with
    current :=
      if s.depth = 0 ∧ s.current.isNone then some ⟨.operation, offset, none⟩
      else s.current
    depth := s.depth + 1 }

/-- A brace closes at an offset. -/
def closeBrace (offset : Nat) (s : Scan) : Scan :=
  { s with
    current :=
      if s.depth - 1 = 0 then s.current.map fun span =>
        { span with last := some (offset + 1) }
      else s.current
    depth := s.depth - 1 }

/-- A word begins at an offset at the top level. -/
def word (text : List Char) (offset : Nat) (s : Scan) :
    Except Fault (Round Scan Scan) := do
  let found ← wordOf (← slice text offset (byteSize text))
  let further := offset + max (byteSize found) 1
  match SectionKind.ofKeyword? found with
  | none => .ok (.next further s)
  | some kind =>
      let closed ← s.close text
      let first := if kind = .vars then offset + byteSize found else offset
      .ok (.next further { closed with current := some ⟨kind, first, none⟩ })

/-- Neither a word nor a sigil ends in front of an offset. -/
def apart (text : List Char) (offset : Nat) : Except Fault Bool := do
  if offset = 0 then .ok true
  else
    let byte ← byteBefore text offset
    .ok (!(isWordChar byte || byte == '$' || byte == '@'))

/-- A round of the loop for a document. -/
def round (text : List Char) (offset : Nat) (s : Scan) :
    Except Fault (Round Scan Scan) := do
  let byte ← byteAt text offset
  if byte = '"' then .ok (.next (← literalEnd text offset) s)
  else if byte = '#' then s.lineComment text offset
  else if byte = '/' ∧ (bytes text)[offset + 1]? = some '*' then
    s.blockComment text offset
  else if byte = '{' then .ok (.next (offset + 1) (s.openBrace offset))
  else if byte = '}' then .ok (.next (offset + 1) (s.closeBrace offset))
  else if byte = '(' then .ok (.next (offset + 1) { s with parens := s.parens + 1 })
  else if byte = ')' then .ok (.next (offset + 1) { s with parens := s.parens - 1 })
  else if s.depth = 0 ∧ s.parens = 0 ∧ isWordChar byte = true then
    if ← apart text offset then s.word text offset else .ok (.next (offset + 1) s)
  else .ok (.next (offset + 1) s)

/-- Goes over a document from an offset on. -/
def run (text : List Char) : Nat → Scan → Except Fault Scan :=
  rounds (byteSize text) (round text) id

/-- What was found makes an item. -/
def item (s : Scan) : Except Fault Item := do
  let comment := join ['\n'] s.comments
  .ok {
    comment := String.ofList comment
    vars := String.ofList s.vars
    query := String.ofList s.query
    fragments := s.fragments
    name := String.ofList (← nameOf s.query)
    operation := ← operationOf s.query
    order := Order.ofComment comment }

end Scan

/-- Splits a document into its parts by offsets. -/
def scan (text : List Char) : Except Fault Item := do
  let s ← Scan.run text 0 {}
  let closed ← s.close text
  closed.item

end QueryGate.Document
