import Mathlib.Data.List.Infix
import QueryGate.Text.Offset
import QueryGate.Text.Split
import QueryGate.Text.Word

/-!
The bytes of a text and reading them at offsets.

Every access is checked: a byte has to be one of the text, a slice has to lie within
the text, to end where it begins or later and to cut no character, and a round of a
loop has to move on. A character of ASCII is a single byte, and no byte of another
character is one of ASCII, so a text can be searched for signs of ASCII byte by
byte.
-/

namespace QueryGate.Text

/-- The bytes of a character in UTF-8, each as the character of its number. -/
def charBytes (c : Char) : List Char :=
  (String.utf8EncodeChar c).map Char.ofUInt8

def bytes (s : List Char) : List Char :=
  s.flatMap charBytes

/-- The number of bytes of a text. -/
def byteSize (s : List Char) : Nat :=
  (bytes s).length

def IsAscii (c : Char) : Prop :=
  c.toNat < 128

instance (c : Char) : Decidable (IsAscii c) :=
  inferInstanceAs (Decidable (c.toNat < 128))

@[simp]
theorem toNat_ofUInt8 (byte : UInt8) : (Char.ofUInt8 byte).toNat = byte.toNat :=
  UInt8.toNat_toUInt32 byte

theorem charBytes_of_isAscii {c : Char} (h : IsAscii c) : charBytes c = [c] := by
  have hsize : c.val.toNat ≤ 127 := Nat.le_of_lt_succ h
  have hchar : Char.ofUInt8 (UInt8.ofNat c.val.toNat) = c := by
    rw [← Char.toNat_inj, toNat_ofUInt8, UInt8.toNat_ofNat']
    exact Nat.mod_eq_of_lt (Nat.lt_trans h (by decide))
  rw [charBytes, String.utf8EncodeChar]
  simp only [hsize, ↓reduceIte, List.map_cons, List.map_nil, hchar]

/-- No byte of a character outside of ASCII is one of ASCII. -/
theorem not_isAscii_of_mem_charBytes {c : Char} (h : ¬ IsAscii c) :
    ∀ byte ∈ charBytes c, ¬ IsAscii byte := by
  have hsize : ¬ c.val.toNat ≤ 127 := fun hle => h (Nat.lt_succ_of_le hle)
  rw [charBytes, String.utf8EncodeChar]
  simp only [hsize, ↓reduceIte]
  split_ifs
  all_goals
    simp only [List.map_cons, List.map_nil, List.forall_mem_cons, List.not_mem_nil,
      IsEmpty.forall_iff, implies_true, and_true, IsAscii, toNat_ofUInt8,
      UInt8.toNat_ofNat']
    omega

/-- A byte of a character is a sign of ASCII only where the character is that
sign. -/
theorem eq_iff_of_mem_charBytes {c sign byte : Char} (hsign : IsAscii sign)
    (hbyte : byte ∈ charBytes c) : byte = sign ↔ c = sign := by
  by_cases hc : IsAscii c
  · rw [charBytes_of_isAscii hc, List.mem_singleton] at hbyte
    rw [hbyte]
  · have hother : ¬ IsAscii byte := not_isAscii_of_mem_charBytes hc byte hbyte
    exact ⟨fun heq => absurd (heq ▸ hsign) hother,
      fun heq => absurd (heq ▸ hsign) hc⟩

theorem isAscii_of_isWordChar {c : Char} (h : isWordChar c = true) : IsAscii c :=
  Nat.lt_of_le_of_lt (toNat_of_isWordChar h).2 (by decide)

/-- What holds of signs of ASCII only holds of the bytes of a character as it does
of the character. -/
theorem eq_of_mem_charBytes {p : Char → Bool} (hp : ∀ c, p c = true → IsAscii c)
    {c byte : Char} (hbyte : byte ∈ charBytes c) : p byte = p c := by
  by_cases hc : IsAscii c
  · rw [charBytes_of_isAscii hc, List.mem_singleton] at hbyte
    rw [hbyte]
  · have hother : ¬ IsAscii byte := not_isAscii_of_mem_charBytes hc byte hbyte
    rw [Bool.eq_false_iff.mpr fun h => hother (hp byte h),
      Bool.eq_false_iff.mpr fun h => hc (hp c h)]

theorem isWordChar_of_mem_charBytes {c byte : Char} (hbyte : byte ∈ charBytes c) :
    isWordChar byte = isWordChar c :=
  eq_of_mem_charBytes (fun _ => isAscii_of_isWordChar) hbyte

theorem length_charBytes (c : Char) : (charBytes c).length = c.utf8Size := by
  rw [charBytes, List.length_map, String.length_utf8EncodeChar]

theorem utf8Size_of_isAscii {c : Char} (h : IsAscii c) : c.utf8Size = 1 := by
  rw [← length_charBytes, charBytes_of_isAscii h]
  rfl

theorem charBytes_ne_nil (c : Char) : charBytes c ≠ [] := by
  rw [ne_eq, ← List.length_eq_zero_iff, length_charBytes]
  exact Nat.ne_of_gt c.utf8Size_pos

theorem bytes_cons (c : Char) (s : List Char) :
    bytes (c :: s) = charBytes c ++ bytes s :=
  List.flatMap_cons

theorem bytes_append (s t : List Char) : bytes (s ++ t) = bytes s ++ bytes t :=
  List.flatMap_append

@[simp]
theorem byteSize_nil : byteSize [] = 0 :=
  rfl

@[simp]
theorem byteSize_append (s t : List Char) :
    byteSize (s ++ t) = byteSize s + byteSize t := by
  rw [byteSize, bytes_append, List.length_append, byteSize, byteSize]

theorem byteSize_cons (c : Char) (s : List Char) :
    byteSize (c :: s) = c.utf8Size + byteSize s := by
  rw [byteSize, bytes_cons, List.length_append, length_charBytes, byteSize]

theorem byteSize_pos {s : List Char} (h : s ≠ []) : 0 < byteSize s := by
  obtain ⟨c, rest, rfl⟩ := List.exists_cons_of_ne_nil h
  rw [byteSize_cons]
  exact Nat.add_pos_left c.utf8Size_pos _

theorem byteSize_lt_append (before : List Char) {after : List Char}
    (h : after ≠ []) : byteSize before < byteSize (before ++ after) := by
  rw [byteSize_append]
  exact Nat.lt_add_of_pos_right (byteSize_pos h)

theorem bytes_of_isAscii {s : List Char} (h : ∀ c ∈ s, IsAscii c) :
    bytes s = s := by
  induction s with
  | nil => rfl
  | cons c s ih =>
      obtain ⟨hc, hs⟩ := List.forall_mem_cons.mp h
      rw [bytes_cons, charBytes_of_isAscii hc, ih hs, List.singleton_append]

/-- Signs of ASCII are picked from the bytes of a text as they are from its
characters. -/
theorem filter_bytes {p : Char → Bool} (hp : ∀ c, p c = true → IsAscii c)
    (s : List Char) : (bytes s).filter p = s.filter p := by
  induction s with
  | nil => rfl
  | cons c s ih =>
      rw [bytes_cons, List.filter_append, ih]
      by_cases hc : p c = true
      · rw [charBytes_of_isAscii (hp c hc), List.filter_cons_of_pos hc,
          List.filter_cons_of_pos hc]
        rfl
      · -- None of the bytes is picked where the character is not.
        have hbytes : (charBytes c).filter p = [] := by
          rw [List.filter_eq_nil_iff]
          intro byte hbyte
          rwa [eq_of_mem_charBytes hp hbyte]
        rw [hbytes, List.filter_cons_of_neg hc, List.nil_append]

/-- A text begins with signs of ASCII where its bytes do. -/
theorem isPrefixOf_bytes {signs : List Char} (h : ∀ c ∈ signs, IsAscii c)
    (s : List Char) : signs.isPrefixOf (bytes s) = signs.isPrefixOf s := by
  induction signs generalizing s with
  | nil => rfl
  | cons sign signs ih =>
      obtain ⟨hsign, hsigns⟩ := List.forall_mem_cons.mp h
      cases s with
      | nil => rfl
      | cons c s =>
          rw [bytes_cons]
          by_cases hc : IsAscii c
          · rw [charBytes_of_isAscii hc, List.singleton_append,
              List.isPrefixOf_cons_cons, List.isPrefixOf_cons_cons]
            exact congrArg _ (ih hsigns s)
          · obtain ⟨byte, others, hbytes⟩ :=
              List.exists_cons_of_ne_nil (charBytes_ne_nil c)
            have hbyte : ¬ IsAscii byte :=
              not_isAscii_of_mem_charBytes hc byte (hbytes ▸ List.mem_cons_self)
            have hother : (sign == byte) = false :=
              beq_false_of_ne fun heq => hbyte (heq ▸ hsign)
            have hfirst : (sign == c) = false :=
              beq_false_of_ne fun heq => hc (heq ▸ hsign)
            rw [hbytes, List.cons_append, List.isPrefixOf_cons_cons,
              List.isPrefixOf_cons_cons, hother, hfirst, Bool.false_and,
              Bool.false_and]

/-- The first byte of what follows a text is a sign of ASCII where its first
character is. -/
theorem getElem?_bytes_append {sign : Char} (hsign : IsAscii sign)
    (before after : List Char) :
    (bytes (before ++ after))[byteSize before]? = some sign ↔
    after.head? = some sign := by
  have hhead : (bytes (before ++ after))[byteSize before]? = (bytes after)[0]? := by
    rw [bytes_append, byteSize, List.getElem?_append_right (Nat.le_refl _),
      Nat.sub_self]
  rw [hhead]
  cases after with
  | nil => exact Iff.rfl
  | cons c after =>
      obtain ⟨byte, others, hbytes⟩ :=
        List.exists_cons_of_ne_nil (charBytes_ne_nil c)
      have hbyte : byte ∈ charBytes c := hbytes ▸ List.mem_cons_self
      rw [bytes_cons, hbytes, List.cons_append, List.getElem?_cons_zero,
        List.head?_cons, Option.some.injEq, Option.some.injEq]
      exact eq_iff_of_mem_charBytes hsign hbyte

/-- What an access by offsets can do wrong. There is no byte at the offset. The
offsets of a slice are out of order or out of the text, or one of them is within a
character. A round of a loop does not move on. -/
inductive Fault where
  | byte (offset : Nat)
  | slice (first last : Nat)
  | stalled (offset : Nat)
deriving DecidableEq, Repr

@[simp]
theorem ok_bind {α β : Type} (result : α) (next : α → Except Fault β) :
    (Except.ok result >>= next) = next result :=
  rfl

def byteAt (text : List Char) (offset : Nat) : Except Fault Char :=
  match (bytes text)[offset]? with
  | some byte => .ok byte
  | none => .error (.byte offset)

/-- The byte in front of an offset. -/
def byteBefore (text : List Char) : Nat → Except Fault Char
  | 0 => .error (.byte 0)
  | offset + 1 => byteAt text offset

def bytesFrom (text : List Char) (offset : Nat) : Except Fault (List Char) :=
  if offset ≤ byteSize text then .ok ((bytes text).drop offset)
  else .error (.slice offset (byteSize text))

def slice (text : List Char) (first last : Nat) : Except Fault (List Char) :=
  match between? first last text with
  | some piece => .ok piece
  | none => .error (.slice first last)

theorem cutAt?_byteSize (before after : List Char) :
    cutAt? (byteSize before) (before ++ after) = some (before, after) := by
  induction before with
  | nil => rw [byteSize_nil, cutAt?, List.nil_append]
  | cons c before ih =>
      obtain ⟨offset, hoffset⟩ :=
        Nat.exists_eq_add_one_of_ne_zero
          (Nat.ne_of_gt (byteSize_pos (List.cons_ne_nil c before)))
      have hsize := byteSize_cons c before
      have hwithin : ¬ offset + 1 < c.utf8Size := by omega
      have hrest : offset + 1 - c.utf8Size = byteSize before := by omega
      rw [hoffset, List.cons_append, cutAt?, if_neg hwithin, hrest, ih]
      rfl

theorem byteSize_of_cutAt? {offset : Nat} {s before after : List Char}
    (h : cutAt? offset s = some (before, after)) : byteSize before = offset := by
  induction s generalizing offset before with
  | nil =>
      cases offset with
      | zero =>
          rw [cutAt?] at h
          obtain ⟨rfl, -⟩ := Prod.mk.inj (Option.some.inj h)
          rfl
      | succ _ => cases h
  | cons c s ih =>
      cases offset with
      | zero =>
          rw [cutAt?] at h
          obtain ⟨rfl, -⟩ := Prod.mk.inj (Option.some.inj h)
          rfl
      | succ offset =>
          rw [cutAt?] at h
          split at h
          · cases h
          · obtain ⟨⟨front, rest⟩, hcut, heq⟩ := Option.map_eq_some_iff.mp h
            obtain ⟨rfl, rfl⟩ := Prod.mk.inj heq
            have hfront : byteSize front = offset + 1 - c.utf8Size := ih hcut
            have hcons : byteSize (c :: front) = c.utf8Size + byteSize front :=
              byteSize_cons c front
            show byteSize (c :: front) = offset + 1
            omega

/-- A slice is taken where both offsets are between characters of the text, in
order. -/
theorem slice_eq_ok_iff {text piece : List Char} {first last : Nat} :
    slice text first last = .ok piece ↔
      ∃ before after, text = before ++ piece ++ after ∧ byteSize before = first ∧
        byteSize (before ++ piece) = last := by
  have hslice : slice text first last = .ok piece ↔
      between? first last text = some piece := by
    rw [slice]
    cases between? first last text <;> simp
  rw [hslice]
  constructor
  · intro h
    obtain ⟨⟨front, after⟩, hlast, hfirst⟩ := Option.bind_eq_some_iff.mp h
    obtain ⟨⟨before, rest⟩, hcut, rfl⟩ := Option.map_eq_some_iff.mp hfirst
    obtain rfl : front = before ++ rest := eq_append_of_cutAt? hcut
    exact ⟨before, after, eq_append_of_cutAt? hlast, byteSize_of_cutAt? hcut,
      byteSize_of_cutAt? hlast⟩
  · rintro ⟨before, after, rfl, rfl, rfl⟩
    rw [between?, cutAt?_byteSize, Option.bind_some, from?, cutAt?_byteSize]
    rfl

theorem slice_append (before piece after : List Char) :
    slice (before ++ piece ++ after) (byteSize before)
    (byteSize before + byteSize piece) =
      .ok piece :=
  slice_eq_ok_iff.mpr ⟨before, after, rfl, rfl, byteSize_append before piece⟩

/-- The text from an offset on. -/
theorem slice_rest (before after : List Char) :
    slice (before ++ after) (byteSize before) (byteSize (before ++ after)) =
      .ok after :=
  slice_eq_ok_iff.mpr ⟨before, [], (List.append_nil _).symm, rfl, rfl⟩

theorem bytesFrom_append (before after : List Char) :
    bytesFrom (before ++ after) (byteSize before) = .ok (bytes after) := by
  rw [bytesFrom, if_pos (by simp), bytes_append, byteSize, List.drop_left]

theorem exists_byteAt_of_lt {text : List Char} {offset : Nat}
    (h : offset < byteSize text) : ∃ byte, byteAt text offset = .ok byte :=
  ⟨_, by rw [byteAt, List.getElem?_eq_getElem h]⟩

/-- What begins with a byte that can be read. -/
theorem exists_bytesFrom {text : List Char} {offset : Nat} {byte : Char}
    (h : byteAt text offset = .ok byte) :
    ∃ others, bytesFrom text offset = .ok (byte :: others) := by
  rw [byteAt] at h
  split at h
  · next hbyte =>
      obtain rfl := Except.ok.inj h
      obtain ⟨hlt, rfl⟩ := List.getElem?_eq_some_iff.mp hbyte
      refine ⟨(bytes text).drop (offset + 1), ?_⟩
      rw [bytesFrom, List.drop_eq_getElem_cons hlt]
      exact if_pos (Nat.le_of_lt hlt)
  · cases h

/-- The byte at an offset within a character is one of its bytes. -/
theorem exists_byteAt {before : List Char} {c : Char} {offset : Nat}
    (after : List Char) (hfirst : byteSize before ≤ offset)
    (hlast : offset < byteSize (before ++ [c])) :
    ∃ byte ∈ charBytes c, byteAt (before ++ c :: after) offset = .ok byte := by
  have hsize : offset - byteSize before < (charBytes c).length := by
    rw [byteSize_append, byteSize_cons, byteSize_nil] at hlast
    rw [length_charBytes]
    omega
  refine ⟨_, List.getElem_mem hsize, ?_⟩
  have hbyte : (bytes (before ++ c :: after))[offset]? =
      some (charBytes c)[offset - byteSize before] := by
    rw [bytes_append, List.getElem?_append_right hfirst, bytes_cons]
    exact (List.getElem?_append_left hsize).trans (List.getElem?_eq_getElem hsize)
  rw [byteAt, hbyte]

theorem byteAt_append (before after : List Char) {c : Char} (h : IsAscii c) :
    byteAt (before ++ c :: after) (byteSize before) = .ok c := by
  have hlast : byteSize before < byteSize (before ++ [c]) :=
    byteSize_lt_append before (List.cons_ne_nil c [])
  obtain ⟨byte, hbyte, hat⟩ := exists_byteAt after (Nat.le_refl _) hlast
  rw [charBytes_of_isAscii h, List.mem_singleton] at hbyte
  rw [hat, hbyte]

/-- The byte in front of what follows a character is the last one of the
character. -/
theorem exists_byteBefore (before after : List Char) (c : Char) :
    ∃ byte ∈ charBytes c,
      byteBefore (before ++ c :: after) (byteSize (before ++ [c])) = .ok byte := by
  have hpos : 0 < byteSize [c] := byteSize_pos (List.cons_ne_nil c [])
  have hsize := byteSize_append before [c]
  obtain ⟨offset, hoffset⟩ :
      ∃ offset, byteSize (before ++ [c]) = offset + 1 :=
    Nat.exists_eq_add_one_of_ne_zero (by omega)
  rw [hoffset, byteBefore]
  exact exists_byteAt after (by omega) (by omega)

/-- How a round of a loop ends: with the offset and the state of the next one, or
with the result of the loop. -/
inductive Round (σ α : Type) where
  | next (offset : Nat) (state : σ)
  | done (result : α)

/-- Goes round a loop while the offset is below a size. A round that does not end
the loop has to move on. -/
def rounds {σ α : Type} (size : Nat) (round : Nat → σ → Except Fault (Round σ α))
    (finish : σ → α) (offset : Nat) (state : σ) : Except Fault α :=
  if offset < size then
    match round offset state with
    | .error fault => .error fault
    | .ok (.done result) => .ok result
    | .ok (.next further state) =>
        if offset < further then rounds size round finish further state
        else .error (.stalled offset)
  else .ok (finish state)
termination_by size - offset

section Rounds

variable {σ α : Type} {size : Nat} {round : Nat → σ → Except Fault (Round σ α)}
  {finish : σ → α} {first last : Nat} {state further : σ}

theorem rounds_of_le (h : size ≤ first) :
    rounds size round finish first state = .ok (finish state) := by
  rw [rounds, if_neg (Nat.not_lt.mpr h)]

theorem rounds_done {result : α} (hsize : first < size)
    (h : round first state = .ok (.done result)) :
    rounds size round finish first state = .ok result := by
  rw [rounds, if_pos hsize, h]

theorem rounds_next (hsize : first < size)
    (h : round first state = .ok (.next last further)) (hfurther : first < last) :
    rounds size round finish first state =
      rounds size round finish last further := by
  rw [rounds, if_pos hsize, h]
  exact if_pos hfurther

/-- A loop goes on byte by byte where nothing else is done. -/
theorem rounds_bytes (hfirst : first ≤ last) (hlast : last ≤ size)
    (h : ∀ offset, first ≤ offset → offset < last →
      round offset state = .ok (.next (offset + 1) state)) :
    rounds size round finish first state = rounds size round finish last state := by
  induction last, hfirst using Nat.le_induction with
  | base => rfl
  | succ last hfirst ih =>
      rw [ih (Nat.le_of_succ_le hlast) fun offset hle hlt =>
        h offset hle (Nat.lt_succ_of_lt hlt)]
      exact rounds_next hlast (h last hfirst (Nat.lt_succ_self last))
        (Nat.lt_succ_self last)

/-- A loop passes a character where it does nothing at any of its bytes. -/
theorem rounds_char {text before rest : List Char} {c : Char}
    (htext : text = before ++ c :: rest)
    (h : ∀ offset, byteSize before ≤ offset → offset < byteSize (before ++ [c]) →
      round offset state = .ok (.next (offset + 1) state)) :
    rounds (byteSize text) round finish (byteSize before) state =
      rounds (byteSize text) round finish (byteSize (before ++ [c])) state := by
  have hbehind : text = before ++ [c] ++ rest := by rw [htext, List.append_cons]
  refine rounds_bytes ?_ ?_ h
  · rw [byteSize_append]
    exact Nat.le_add_right _ _
  · rw [hbehind, byteSize_append (before ++ [c])]
    exact Nat.le_add_right _ _

/-- A loop that begins at one offset in a state comes to another offset in another
state. -/
inductive Reaches (size : Nat) (round : Nat → σ → Except Fault (Round σ α))
    (first : Nat) (state : σ) : Nat → σ → Prop
  | start : Reaches size round first state first state
  | next {offset last : Nat} {here further : σ}
      (h : Reaches size round first state offset here)
      (hsize : offset < size)
      (hround : round offset here = .ok (.next last further)) :
      Reaches size round first state last further

/-- A loop that has a result: each round that it comes to ends it or moves on. -/
theorem Reaches.moves_on {result : α}
    (h : rounds size round finish first state = .ok result) {offset : Nat}
    {here : σ} (hreaches : Reaches size round first state offset here)
    (hoffset : offset < size) :
    round offset here = .ok (.done result) ∨
      ∃ last further, round offset here = .ok (.next last further) ∧
        offset < last := by
  have hhere : rounds size round finish offset here = .ok result := by
    clear hoffset
    induction hreaches with
    | start => exact h
    | @next offset last here further _ hsize hround ih =>
        rw [rounds, if_pos hsize, hround] at ih
        simp only at ih
        split at ih
        · exact ih
        · cases ih
  rw [rounds, if_pos hoffset] at hhere
  split at hhere
  · cases hhere
  · next ended hround =>
      rw [hround, Except.ok.inj hhere]
      exact Or.inl rfl
  · next last further hround =>
      split at hhere
      · next hlast => exact Or.inr ⟨last, further, hround, hlast⟩
      · cases hhere

end Rounds

end QueryGate.Text
