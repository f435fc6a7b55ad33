import Mathlib.Data.List.TakeWhile
import QueryGate.Proofs.Pattern.Items

/-!
What sets in brackets see of the text after them.

A set is read part by part, each of which may run up to the parenthesis after the
text. But a set has a closing bracket. Main statement: the reader of a set is local.
-/

namespace QueryGate.Pattern

open QueryGate.Text QueryGate.Unicode

/-- The names of classes have no parenthesis in them. -/
theorem not_mem_of_ofName? {name : List Char} {found : AsciiClass}
    (h : AsciiClass.ofName? name = some found) : ')' ∉ name := by
  obtain ⟨⟨known, value⟩, hmem, hname⟩ := List.exists_of_findSome?_eq_some h
  dsimp only at hname
  split_ifs at hname with hknown
  subst hknown
  refine
    (?_ : ∀ entry : String × AsciiClass, entry ∈ _ → ')' ∉ entry.1.toList) _ hmem
  decide

/-- The text between the colons of a named class, and whether there is a caret
before it. -/
def classSign : List Char → Bool × List Char
  | '^' :: after => (true, after)
  | other => (false, other)

theorem classSign_append (s y : List Char) :
    classSign (s ++ ')' :: y) = ((classSign s).1, (classSign s).2 ++ ')' :: y) := by
  rcases s with _ | ⟨c, rest⟩
  · rfl
  · by_cases hc : c = '^'
    · subst hc
      rfl
    · rw [List.cons_append, classSign, classSign]
      · rfl
      · simpa using hc
      · simpa using hc

theorem readAsciiClass?_colon (s : List Char) :
    readAsciiClass? (':' :: s) =
      match (classSign s).2.span (· != ':') with
      | (name, ':' :: ']' :: after) =>
          (AsciiClass.ofName? name).map fun found =>
            (((classSign s).1, found), after)
      | _ => none :=
  rfl

theorem readAsciiClass?_append (s y : List Char) :
    readAsciiClass? (s ++ ')' :: y) =
      (readAsciiClass? s).map fun read => (read.1, read.2 ++ ')' :: y) := by
  rcases s with _ | ⟨c, rest⟩
  · rfl
  by_cases hc : c = ':'
  · subst hc
    rw [List.cons_append, readAsciiClass?_colon, readAsciiClass?_colon,
      classSign_append]
    generalize (classSign rest).1 = negated, (classSign rest).2 = start
    rcases (scans_span (· != ':')).append start with happend | ⟨hnil, -⟩
    · simp only [happend]
      rcases start.span (· != ':') with ⟨name, _ | ⟨d, _ | ⟨e, after⟩⟩⟩
      · rfl
      · by_cases hd : d = ':'
        · subst hd
          rfl
        · simp [hd]
      · by_cases hde : d = ':' ∧ e = ']'
        · obtain ⟨rfl, rfl⟩ := hde
          simp only [List.cons_append, Option.map_map]
          rfl
        · rw [List.cons_append, List.cons_append]
          split
          · next heq =>
            cases heq
            exact absurd ⟨rfl, rfl⟩ hde
          · split
            · next heq =>
              cases heq
              exact absurd ⟨rfl, rfl⟩ hde
            · rfl
    · -- A name that runs to the end of the text has the parenthesis in it.
      have hall : ∀ d ∈ start, (d != ':') = true := by
        rwa [List.span_eq_takeWhile_dropWhile, List.dropWhile_eq_nil_iff] at hnil
      have hmem : ')' ∈ ((start ++ ')' :: y).span (· != ':')).1 := by
        rw [List.span_eq_takeWhile_dropWhile, List.takeWhile_append_of_pos hall]
        simp
      have hnone : ∀ found after, ((start ++ ')' :: y).span (· != ':')) =
        (found, after) →
          AsciiClass.ofName? found = none := fun found after hspan => by
        rw [hspan] at hmem
        cases hname : AsciiClass.ofName? found with
        | none => rfl
        | some _ => exact absurd hmem (not_mem_of_ofName? hname)
      rw [show start.span (· != ':') = ((start.span (· != ':')).1, [])
        from Prod.ext rfl hnil]
      split
      · next heq =>
        rw [hnone _ _ heq]
        rfl
      · rfl
  · rw [List.cons_append, readAsciiClass?, readAsciiClass?]
    · rfl
    · simpa using hc
    · simpa using hc

theorem readAsciiClass?_suffix {s r : List Char} {a : Bool × AsciiClass}
    (h : readAsciiClass? s = some (a, r)) : r <:+ s := by
  rcases s with _ | ⟨c, rest⟩
  · cases h
  by_cases hc : c = ':'
  · subst hc
    have hsign : (classSign rest).2 <:+ rest := by
      rw [classSign.eq_def]
      split
      · exact List.suffix_cons _ _
      · exact List.suffix_refl _
    have hspan := (scans_span (· != ':')).suffix (classSign rest).2
    rw [readAsciiClass?_colon] at h
    split at h
    · next name after heq =>
      obtain ⟨found, -, hfound⟩ := Option.map_eq_some_iff.mp h
      cases hfound
      rw [heq] at hspan
      exact (((List.suffix_cons ']' r).trans (List.suffix_cons ':' _)).trans
        hspan).trans (hsign.trans (List.suffix_cons ':' rest))
    · cases h
  · rw [readAsciiClass?] at h
    · cases h
    · simpa using hc

/-- Reads a bracket within a bracket, or the name of a class. -/
def nestedPart? (flags : Flags) (inner : OpenBracket) (outer : List OpenBracket)
    (s : List Char) : Option (List OpenBracket × List Char) :=
  match readAsciiClass? s with
  | some ((negated, name), after) =>
      (flags.complementIf? negated
        (flags.withCases (.named (.ranges name.ranges)))).map fun set =>
        (inner.add set :: outer, after)
  | none =>
      (openBracket? flags s).map fun read => (read.1 :: inner :: outer, read.2)

theorem nestBracket?_eq (flags : Flags) (inner : OpenBracket)
    (outer : List OpenBracket) (s : List Char) :
    nestBracket? flags inner outer s =
      (nestedPart? flags inner outer s).map fun read => .more read.1 read.2 := by
  rw [nestBracket?, nestedPart?]
  rcases readAsciiClass? s with _ | ⟨⟨negated, name⟩, after⟩
  · cases openBracket? flags s <;> rfl
  · dsimp only
    cases flags.complementIf? negated
      (flags.withCases (.named (.ranges name.ranges))) <;> rfl

theorem steady_nestedPart (flags : Flags) (inner : OpenBracket)
    (outer : List OpenBracket) : Steady (nestedPart? flags inner outer) := by
  have hopen := (steady_openBracket flags).used fun opened =>
    opened :: inner :: outer
  refine ⟨?_, ?_, ?_⟩
  · intro s a r hs
    rw [nestedPart?] at hs
    cases hclass : readAsciiClass? s with
    | none =>
        rw [hclass] at hs
        exact hopen.suffix hs
    | some read =>
        rw [hclass] at hs
        obtain ⟨set, -, hs⟩ := Option.map_eq_some_iff.mp hs
        cases hs
        exact readAsciiClass?_suffix hclass
  · intro s a r hs hne y
    rw [nestedPart?] at hs
    rw [nestedPart?, readAsciiClass?_append]
    cases hclass : readAsciiClass? s with
    | none =>
        rw [hclass] at hs
        exact hopen.kept hs hne y
    | some read =>
        rw [hclass] at hs
        obtain ⟨set, hset, hs⟩ := Option.map_eq_some_iff.mp hs
        cases hs
        simp [hset]
  · intro s y b past hend hs
    simp only [nestedPart?] at hend
    rw [nestedPart?, readAsciiClass?_append] at hs
    cases hclass : readAsciiClass? s with
    | none =>
        rw [hclass] at hs
        simp only [hclass] at hend
        exact hopen.late hend hs
    | some read =>
        rw [hclass] at hs
        simp only [hclass] at hend
        obtain ⟨set, hset, hs⟩ := Option.map_eq_some_iff.mp hs
        cases hs
        have hnil := hend (inner.add set :: outer) read.2 (by rw [hset]; rfl)
        simp [hnil]

/-- The operator that two of a character stand for between sets. -/
def doubled? : Char → Option SetOperation
  | '&' => some .intersection
  | '-' => some .difference
  | '~' => some .symmetricDifference
  | _ => none

/-- Reads a part of a bracket that does not close it. The first character is
given. -/
def bracketPart? (flags : Flags) (inner : OpenBracket) (outer : List OpenBracket)
    (c : Char) (rest : List Char) : Option (List OpenBracket × List Char) :=
  if c = '[' then nestedPart? flags inner outer rest
  else match doubled? c with
    | some operation =>
        if rest.head? = some c then some (inner.operator flags operation :: outer,
          rest.tail)
        else (readBracketItem? flags (c :: rest)).map fun read =>
          (inner.add read.1 :: outer, read.2)
    | none =>
        (readBracketItem? flags (c :: rest)).map fun read =>
          (inner.add read.1 :: outer, read.2)

theorem stepBracket?_eq (flags : Flags) (inner : OpenBracket)
    (outer : List OpenBracket) {c : Char} (hc : c ≠ ']') (rest : List Char) :
    stepBracket? flags inner outer (c :: rest) =
      (bracketPart? flags inner outer c rest).map fun read =>
        .more read.1 read.2 := by
  rw [bracketPart?]
  by_cases hopen : c = '['
  · subst hopen
    exact nestBracket?_eq flags inner outer rest
  rw [if_neg hopen, stepBracket?.eq_def]
  split
  · next heq => cases heq
  · next heq =>
    cases heq
    exact absurd rfl hopen
  · next heq =>
    cases heq
    exact absurd rfl hc
  · next heq =>
    cases heq
    rfl
  · next heq =>
    cases heq
    rfl
  · next heq =>
    cases heq
    rfl
  · next hand hhyphen htilde =>
    cases hdoubled : doubled? c with
    | none => cases readBracketItem? flags (c :: rest) <;> rfl
    | some operation =>
        have hsingle : rest.head? ≠ some c := fun hhead => by
          obtain ⟨after, rfl⟩ := List.head?_eq_some_iff.mp hhead
          rw [doubled?.eq_def] at hdoubled
          split at hdoubled
          · exact hand _ rfl
          · exact hhyphen _ rfl
          · exact htilde _ rfl
          · cases hdoubled
        dsimp only
        rw [if_neg hsingle]
        cases readBracketItem? flags (c :: rest) <;> rfl

theorem steady_bracketPart (flags : Flags) (inner : OpenBracket)
    (outer : List OpenBracket) (c : Char) :
    Steady (bracketPart? flags inner outer c) := by
  have hitem := (steady_item_cons flags c).used fun item => inner.add item :: outer
  by_cases hopen : c = '['
  · refine (steady_nestedPart flags inner outer).congr fun rest => ?_
    rw [bracketPart?, if_pos hopen]
  cases hdoubled : doubled? c with
  | none =>
      refine hitem.congr fun rest => ?_
      rw [bracketPart?, if_neg hopen, hdoubled]
  | some operation =>
      have hpart : ∀ rest, bracketPart? flags inner outer c rest =
          if rest.head? = some c then some (inner.operator flags operation :: outer,
            rest.tail)
          else (readBracketItem? flags (c :: rest)).map fun read =>
            (inner.add read.1 :: outer, read.2) := fun rest => by
        rw [bracketPart?, if_neg hopen, hdoubled]
      have hparen : c ≠ ')' := by
        rintro rfl
        cases hdoubled
      refine ⟨?_, ?_, ?_⟩
      · intro s a r hs
        rw [hpart] at hs
        split_ifs at hs
        · cases hs
          exact List.tail_suffix s
        · exact hitem.suffix hs
      · intro s a r hs hne y
        rw [hpart] at hs ⊢
        rcases s with _ | ⟨d, s⟩
        · exact absurd (List.suffix_nil.mp (hitem.suffix hs)) hne
        rw [List.cons_append, List.head?_cons, List.tail_cons]
        rw [List.head?_cons, List.tail_cons] at hs
        split_ifs at hs ⊢
        · cases hs
          rfl
        · exact hitem.kept hs hne y
      · intro s y b past hend hs
        simp only [hpart] at hend
        rw [hpart] at hs
        rcases s with _ | ⟨d, s⟩
        · rw [List.nil_append, if_neg (by simpa using hparen.symm)] at hs
          exact hitem.suffix hs
        rw [List.cons_append, List.head?_cons, List.tail_cons] at hs
        rw [List.head?_cons, List.tail_cons] at hend
        split_ifs at hend hs
        · cases hs
          obtain rfl := hend _ _ rfl
          exact List.suffix_refl _
        · exact hitem.late hend hs

theorem stepBracket?_close (flags : Flags) (inner : OpenBracket)
    (outer : List OpenBracket) (rest : List Char) :
    stepBracket? flags inner outer (']' :: rest) =
      (inner.close? flags).map fun set =>
      match outer with
      | [] => .done set rest
      | next :: further => .more (next.add set :: further) rest := by
  rw [stepBracket?]
  cases inner.close? flags with
  | none => rfl
  | some set => cases outer <;> rfl

/-- Reading to the end of the outermost bracket takes its parts one after the
other. -/
theorem readBrackets?_cons {flags : Flags} {fuel : Nat} {inner : OpenBracket}
    {outer : List OpenBracket} {s : List Char} {c : Char} {rest : List Char}
    (hs : flags.skip s = c :: rest) :
    readBrackets? flags (fuel + 1) (inner :: outer) s =
      if c = ']' then (inner.close? flags).bind fun set =>
        match outer with
        | [] => some (set, rest)
        | next :: further => readBrackets? flags fuel (next.add set :: further) rest
      else (bracketPart? flags inner outer c rest).bind fun read =>
        readBrackets? flags fuel read.1 read.2 := by
  rw [readBrackets?, hs]
  by_cases hc : c = ']'
  · subst hc
    rw [stepBracket?_close, if_pos rfl]
    cases inner.close? flags with
    | none => rfl
    | some set => cases outer <;> rfl
  · rw [stepBracket?_eq flags inner outer hc, if_neg hc]
    cases bracketPart? flags inner outer c rest <;> rfl

theorem readBrackets?_nil {flags : Flags} {fuel : Nat} {open_ : List OpenBracket}
    {s : List Char} (hs : flags.skip s = []) :
    readBrackets? flags fuel open_ s = none := by
  rcases fuel with _ | fuel
  · cases open_ <;> rfl
  rcases open_ with _ | ⟨inner, outer⟩
  · rfl
  · rw [readBrackets?, hs]
    rfl

/-- The end of a set is a character that was read. -/
theorem readBrackets?_suffix {flags : Flags} {fuel : Nat} {open_ : List OpenBracket}
    {s r : List Char} {set : CharSet}
    (h : readBrackets? flags fuel open_ s = some (set, r)) :
    ∃ c, c :: r <:+ flags.skip s := by
  induction fuel generalizing open_ s with
  | zero => cases open_ <;> cases h
  | succ fuel ih =>
      rcases open_ with _ | ⟨inner, outer⟩
      · cases h
      cases hs : flags.skip s with
      | nil =>
          rw [readBrackets?_nil hs] at h
          cases h
      | cons c rest =>
          rw [readBrackets?_cons hs] at h
          have htail := fun t (ht : t <:+ rest) =>
            ((scans_skip flags).suffix t).trans (ht.trans (List.suffix_cons c rest))
          split_ifs at h
          · obtain ⟨set', -, h⟩ := Option.bind_eq_some_iff.mp h
            cases outer with
            | nil =>
                cases h
                exact ⟨c, List.suffix_refl _⟩
            | cons next further =>
                obtain ⟨d, hd⟩ := ih h
                exact ⟨d, hd.trans (htail rest (List.suffix_refl _))⟩
          · obtain ⟨⟨o, after⟩, hpart, h⟩ := Option.bind_eq_some_iff.mp h
            obtain ⟨d, hd⟩ := ih h
            have hafter := (steady_bracketPart flags inner outer c).suffix hpart
            exact ⟨d, hd.trans (htail after hafter)⟩

theorem ne_nil_of_readBrackets? {flags : Flags} {fuel : Nat}
    {open_ : List OpenBracket} {s r : List Char} {set : CharSet}
    (h : readBrackets? flags fuel open_ s = some (set, r)) : s ≠ [] := by
  rintro rfl
  rw [readBrackets?_nil (List.suffix_nil.mp ((scans_skip flags).suffix []))] at h
  cases h

/-- What a set leaves is left with more after it too, and with more steps than are
needed. -/
theorem readBrackets?_kept {flags : Flags} {fuel fuel' : Nat}
    {open_ : List OpenBracket} {s r : List Char} {set : CharSet}
    (h : readBrackets? flags fuel open_ s = some (set, r)) (hfuel : fuel ≤ fuel')
    (y : List Char) :
    readBrackets? flags fuel' open_ (s ++ ')' :: y) =
      some (set, r ++ ')' :: y) := by
  induction fuel generalizing fuel' open_ s with
  | zero => cases open_ <;> cases h
  | succ fuel ih =>
      obtain ⟨fuel', rfl⟩ : ∃ n, fuel' = n + 1 := ⟨fuel' - 1, by omega⟩
      have hfuel : fuel ≤ fuel' := by omega
      rcases open_ with _ | ⟨inner, outer⟩
      · cases h
      cases hs : flags.skip s with
      | nil =>
          rw [readBrackets?_nil hs] at h
          cases h
      | cons c rest =>
          have happend : flags.skip (s ++ ')' :: y) = c :: (rest ++ ')' :: y) :=
            congrArg Prod.snd ((scans_skip flags).append_of_ne_nil
              (Prod.ext rfl hs) y)
          rw [readBrackets?_cons hs] at h
          rw [readBrackets?_cons happend]
          split_ifs at h ⊢
          · obtain ⟨set', hset, h⟩ := Option.bind_eq_some_iff.mp h
            rw [hset]
            cases outer with
            | nil =>
                cases h
                rfl
            | cons next further => exact ih h hfuel
          · obtain ⟨⟨o, after⟩, hpart, h⟩ := Option.bind_eq_some_iff.mp h
            rw [(steady_bracketPart flags inner outer c).kept hpart
              (ne_nil_of_readBrackets? h) y]
            exact ih h hfuel

theorem suffix_of_cons_suffix {c d : Char} {r y : List Char}
    (h : c :: r <:+ d :: y) : r <:+ y := by
  rcases List.suffix_cons_iff.mp h with heq | hlater
  · cases heq
    exact List.suffix_refl _
  · exact (List.suffix_cons c r).trans hlater

/-- A set that has no end in the text ends after the parenthesis that comes after
the text. -/
theorem readBrackets?_crossed {flags : Flags} {fuel fuel' : Nat}
    {open_ : List OpenBracket} {s y past : List Char} {set : CharSet}
    (hlength : s.length < fuel) (h : readBrackets? flags fuel open_ s = none)
    (hpast : readBrackets? flags fuel' open_ (s ++ ')' :: y) = some (set, past)) :
    past <:+ y := by
  -- What is read of the text after it is more than the parenthesis.
  have hover : ∀ {o fuel' t}, flags.skip t <:+ ')' :: y →
      readBrackets? flags fuel' o t = some (set, past) → past <:+ y :=
        fun ht hread => by
    obtain ⟨d, hd⟩ := readBrackets?_suffix hread
    exact suffix_of_cons_suffix (hd.trans ht)
  induction fuel generalizing fuel' open_ s with
  | zero => omega
  | succ fuel ih =>
      obtain ⟨fuel', rfl⟩ : ∃ n, fuel' = n + 1 := by
        rcases fuel' with _ | fuel'
        · cases open_ <;> cases hpast
        · exact ⟨fuel', rfl⟩
      rcases open_ with _ | ⟨inner, outer⟩
      · cases hpast
      cases hs : flags.skip s with
      | nil =>
          refine hover ?_ hpast
          rcases (scans_skip flags).append s with happend | ⟨-, hpast⟩
          · rw [show flags.skip (s ++ ')' :: y) = flags.skip s ++ ')' :: y from
              congrArg Prod.snd (happend y), hs]
            exact List.suffix_refl _
          · exact (hpast y).trans (List.suffix_cons _ _)
      | cons c rest =>
          have happend : flags.skip (s ++ ')' :: y) = c :: (rest ++ ')' :: y) :=
            congrArg Prod.snd ((scans_skip flags).append_of_ne_nil
              (Prod.ext rfl hs) y)
          have hsuffix := ((scans_skip flags).suffix s).length_le
          dsimp only at hsuffix
          rw [hs, List.length_cons] at hsuffix
          rw [readBrackets?_cons hs] at h
          rw [readBrackets?_cons happend] at hpast
          split_ifs at h hpast
          · obtain ⟨set', hset, hpast⟩ := Option.bind_eq_some_iff.mp hpast
            rw [hset] at h
            cases outer with
            | nil => cases h
            | cons next further => exact ih (by omega) h hpast
          · obtain ⟨⟨o, after⟩, hpart, hpast⟩ := Option.bind_eq_some_iff.mp hpast
            have hsteady := steady_bracketPart flags inner outer c
            rcases hsteady.same_or_late hpart with ⟨r, hread, -, rfl⟩ | hlate
            · rw [hread] at h
              have hle : r.length ≤ rest.length := (hsteady.suffix hread).length_le
              exact ih (show r.length < fuel by omega) h hpast
            · exact hover (((scans_skip flags).suffix _).trans hlate) hpast

theorem local_set (flags : Flags) : Local (readSet? flags) where
  suffix {s set r} h := by
    obtain ⟨⟨opened, rest⟩, hopen, h⟩ := Option.bind_eq_some_iff.mp h
    obtain ⟨c, hc⟩ := readBrackets?_suffix h
    exact (((List.suffix_cons c r).trans hc).trans
      ((scans_skip flags).suffix rest)).trans
        ((steady_openBracket flags).suffix hopen)
  kept {s set r} h := by
    obtain ⟨⟨opened, rest⟩, hopen, h⟩ := Option.bind_eq_some_iff.mp h
    refine Or.inl fun y => Option.bind_eq_some_iff.mpr
      ⟨_, (steady_openBracket flags).kept hopen (ne_nil_of_readBrackets? h) y, ?_⟩
    exact readBrackets?_kept h (by simp) y
  crossed {s y set past} h hpast := by
    have hsteady := steady_openBracket flags
    obtain ⟨⟨opened, rest⟩, hopen, hpast⟩ := Option.bind_eq_some_iff.mp hpast
    rcases hsteady.same_or_late hopen with ⟨r, hread, -, rfl⟩ | hlate
    · rw [readSet?, hread] at h
      exact readBrackets?_crossed (Nat.lt_succ_self _) h hpast
    · obtain ⟨c, hc⟩ := readBrackets?_suffix hpast
      exact suffix_of_cons_suffix
        ((hc.trans ((scans_skip flags).suffix rest)).trans hlate)

end QueryGate.Pattern
