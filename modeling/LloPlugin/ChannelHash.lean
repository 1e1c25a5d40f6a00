import LloPlugin.Channels

/-!
# The input of `MakeChannelHash` determines the channel

`MakeChannelHash` writes a channel definition into SHA-256 field by field: the channel ID, the
length and the bytes of the report format, the chain selector, and the number and the values of
the stream IDs, every number big-endian. Two fields are written as `uint32` lengths, so the
encoding can only be read back when they fit: the report format has fewer than `2^32` bytes and
the definition fewer than `2^32` stream IDs (`ChannelDefinition.FitsHashInput`).

## Main definitions

* `LloPlugin.readBigEndian` — the number in the first `w` bytes, and the bytes after it.
* `LloPlugin.utf8DecodeStep`, `LloPlugin.utf8Decode` — a UTF-8 decoder, one byte at a time.
* `LloPlugin.parseChannelHashInput` — reads a channel definition with its ID back from the bytes
  `MakeChannelHash` hashes.

## Main results

* `LloPlugin.foldlM_utf8DecodeStep_utf8EncodeChar` — the decoder reads back each character's
  encoding; `LloPlugin.utf8Decode_toUTF8` — and so every string's.
* `LloPlugin.parseChannelHashInput_channelHashInput` — the parser recovers every definition that
  fits the length fields.
* `LloPlugin.channelHashInput_injective_iff` — on such definitions the hash input is injective.
* `LloPlugin.channelHashInput_parse` — the parser's round trip, and with it: when SHA-256 has no
  collision among the proposals, `Outcome`'s hash buckets only merge equal proposals
  (`HashesDistinct`).
* `LloPlugin.makeChannelHashResult_eq_ok` — `MakeChannelHash` never panics: every write returns
  `nil`, so the joined error is `nil`, and the call returns the hash of `channelHashInput`.

## Implementation notes

Writing into a `hash.Hash` never fails and every value `MakeChannelHash` hands to
`binary.Write` has a fixed size, so each `binary.Write` returns the `nil` error of its one
`Write` (`channelHashWrites_eq`). The decoder is a fold over the bytes with the number of
continuation bytes still expected and the code point read so far, so that it is structurally
recursive and runs under `decide`.
-/

set_option autoImplicit false

namespace LloPlugin

/-! ### The writes -/

/-- The loop over the stream IDs writes their big-endian values and joins no error. -/
theorem foldl_writeStreamID (ids : List StreamID) (h : List UInt8) :
    ids.foldl writeStreamID (h, none) =
      (h ++ (ids.map fun s => bigEndian 4 s.toNat).flatten, none) := by
  induction ids generalizing h with
  | nil => simp
  | cons s ids ih =>
    rw [List.foldl_cons, show writeStreamID (h, none) s = (h ++ bigEndian 4 s.toNat, none) from rfl,
      ih, List.map_cons, List.flatten_cons, List.append_assoc]

/-- `MakeChannelHash` writes `channelHashInput` into the hash, and the error it joins is `nil`. -/
theorem channelHashWrites_eq (cd : ChannelDefinitionWithID) :
    channelHashWrites cd = (channelHashInput cd, none) := by
  rw [channelHashWrites]
  simp only [binaryWrite, hashWrite, show errorsJoin [none, none] = none from rfl,
    show errorsJoin [none, none, none, none] = none from rfl, foldl_writeStreamID,
    channelHashInput, List.nil_append, List.append_assoc]

/-- **`MakeChannelHash` never panics**: it returns the SHA-256 of `channelHashInput`. -/
theorem makeChannelHashResult_eq_ok (p : LLOPlugin) (cd : ChannelDefinitionWithID) :
    p.makeChannelHashResult cd = .ok (p.makeChannelHash cd) := by
  rw [LLOPlugin.makeChannelHashResult, channelHashWrites_eq]
  rfl

/-! ### Numbers -/

/-- Reads a `w`-byte big-endian number off the front of `bs`: the number and the bytes after it. -/
def readBigEndian : Nat → List UInt8 → Option (Nat × List UInt8)
  | 0, bs => some (0, bs)
  | w + 1, bs =>
    match readBigEndian w bs with
    | some (n, b :: rest) => some (n * 256 + b.toNat, rest)
    | _ => none

theorem toNat_ofNat_uint8 (n : Nat) : (UInt8.ofNat n).toNat = n % 256 :=
  BitVec.toNat_ofNat _ _

/-- The reader undoes `bigEndian`, up to the `w` bytes the writer keeps. -/
theorem readBigEndian_bigEndian (w n : Nat) (rest : List UInt8) :
    readBigEndian w (bigEndian w n ++ rest) = some (n % 256 ^ w, rest) := by
  induction w generalizing n rest with
  | zero => rw [bigEndian, List.nil_append, readBigEndian, Nat.pow_zero, Nat.mod_one]
  | succ w ih =>
    simp only [bigEndian, List.append_assoc, List.singleton_append, readBigEndian, ih,
      toNat_ofNat_uint8, Nat.pow_succ', Nat.mod_mul]
    rw [Nat.add_comm, Nat.mul_comm]

theorem ofNat_toNat_mod_uint32 (x : UInt32) : UInt32.ofNat (x.toNat % 256 ^ 4) = x := by
  have hx : x.toNat < 256 ^ 4 := x.toNat_lt_size
  rw [Nat.mod_eq_of_lt hx]
  exact UInt32.toNat.inj (UInt32.toNat_ofNat_of_lt x.toNat_lt_size)

theorem ofNat_toNat_mod_uint64 (x : UInt64) : UInt64.ofNat (x.toNat % 256 ^ 8) = x := by
  have hx : x.toNat < 256 ^ 8 := x.toNat_lt_size
  rw [Nat.mod_eq_of_lt hx]
  exact UInt64.toNat.inj (UInt64.toNat_ofNat_of_lt x.toNat_lt_size)

/-- Reads `count` stream IDs of four bytes each. -/
def readStreamIDs : Nat → List UInt8 → Option (List StreamID × List UInt8)
  | 0, bs => some ([], bs)
  | count + 1, bs => do
    let (s, bs) ← readBigEndian 4 bs
    let (ss, bs) ← readStreamIDs count bs
    pure (UInt32.ofNat s :: ss, bs)

theorem readStreamIDs_flatten (ss : List StreamID) (rest : List UInt8) :
    readStreamIDs ss.length ((ss.map fun s => bigEndian 4 s.toNat).flatten ++ rest) =
      some (ss, rest) := by
  induction ss with
  | nil => rfl
  | cons s ss ih =>
    simp only [List.length_cons, List.map_cons, List.flatten_cons, List.append_assoc,
      readStreamIDs, readBigEndian_bigEndian, Option.bind_eq_bind, Option.some_bind, ih,
      ofNat_toNat_mod_uint32, Option.pure_def]

/-! ### UTF-8 -/

/-- The state of the UTF-8 decoder: the characters decoded, the number of continuation bytes the
current character still needs, and the bits of its code point read so far. -/
structure Utf8Decoder where
  chars : List Char
  pending : Nat
  codePoint : Nat
  deriving DecidableEq

/-- One byte of UTF-8. With no character open, the byte is a character below `0x80` or the lead
byte of a two-, three- or four-byte character, which tells how many continuation bytes follow
and carries the top bits of the code point; otherwise it must be a continuation byte
`10xxxxxx`, which adds six bits. -/
def utf8DecodeStep (s : Utf8Decoder) (b : UInt8) : Option Utf8Decoder :=
  if s.pending = 0 then
    if b.toNat < 0x80 then some ⟨s.chars ++ [Char.ofNat b.toNat], 0, 0⟩
    else if b.toNat < 0xc0 then none
    else if b.toNat < 0xe0 then some ⟨s.chars, 1, b.toNat % 0x20⟩
    else if b.toNat < 0xf0 then some ⟨s.chars, 2, b.toNat % 0x10⟩
    else some ⟨s.chars, 3, b.toNat % 0x08⟩
  else if b.toNat / 0x40 ≠ 2 then none
  else if s.pending = 1 then
    some ⟨s.chars ++ [Char.ofNat (s.codePoint * 0x40 + b.toNat % 0x40)], 0, 0⟩
  else some ⟨s.chars, s.pending - 1, s.codePoint * 0x40 + b.toNat % 0x40⟩

/-- Decodes UTF-8 bytes into a string; a character cut off at the end is an error. -/
def utf8Decode (bs : List UInt8) : Option String :=
  match bs.foldlM utf8DecodeStep ⟨[], 0, 0⟩ with
  | some ⟨cs, 0, _⟩ => some ⟨cs⟩
  | _ => none

/-! #### The bytes `utf8EncodeChar` builds -/

theorem toNat_shiftRight_toUInt8 (v k : UInt32) (s : Nat) (hk : k.toNat = s) (hs : s < 32) :
    (v >>> k).toUInt8.toNat = v.toNat / 2 ^ s % 256 := by
  have hmod : (UInt32.mod k 32).toBitVec.toNat = s := by
    show k.toNat % 32 = s
    omega
  show (v.toBitVec >>> (UInt32.mod k 32).toBitVec.toNat).toNat % 256 = _
  rw [BitVec.toNat_ushiftRight, Nat.shiftRight_eq_div_pow, hmod]
  rfl

/-- A byte `x &&& (2^j - 1) ||| t` whose tag `t` has no bit below `j`: the tag plus the low `j`
bits of `x`. -/
theorem toNat_and_or (x m t : UInt8) (j q : Nat) (hm : m.toNat = 2 ^ j - 1)
    (ht : t.toNat = 2 ^ j * q) : (x &&& m ||| t).toNat = 2 ^ j * q + x.toNat % 2 ^ j := by
  show (x.toBitVec &&& m.toBitVec ||| t.toBitVec).toNat = _
  rw [BitVec.toNat_or, BitVec.toNat_and]
  change x.toNat &&& m.toNat ||| t.toNat = _
  rw [hm, ht, Nat.and_pow_two_sub_one_eq_mod, Nat.or_comm,
    ← Nat.mul_add_lt_is_or (Nat.mod_lt _ (Nat.two_pow_pos j))]

theorem le_iff_toNat_le_uint32 (a b : UInt32) : a ≤ b ↔ a.toNat ≤ b.toNat := Iff.rfl

theorem ofNat_eq_of_toNat {c : Char} {n : Nat} (h : n = c.val.toNat) : Char.ofNat n = c := by
  rw [h]
  exact Char.ofNat_toNat c

/-! #### One decoder step per byte shape -/

section Step

variable (cs : List Char) (v : Nat) (x : UInt8)

theorem utf8DecodeStep_ascii {b : UInt8} (h : b.toNat < 0x80) :
    utf8DecodeStep ⟨cs, 0, v⟩ b = some ⟨cs ++ [Char.ofNat b.toNat], 0, 0⟩ := by
  rw [utf8DecodeStep, if_pos rfl, if_pos h]

theorem utf8DecodeStep_lead2 :
    utf8DecodeStep ⟨cs, 0, v⟩ (x &&& 0x1f ||| 0xc0) = some ⟨cs, 1, x.toNat % 0x20⟩ := by
  rw [utf8DecodeStep, if_pos rfl, toNat_and_or x 0x1f 0xc0 5 6 rfl rfl, if_neg (by omega),
    if_neg (by omega), if_pos (by omega),
    show (2 ^ 5 * 6 + x.toNat % 2 ^ 5) % 0x20 = x.toNat % 0x20 by omega]

theorem utf8DecodeStep_lead3 :
    utf8DecodeStep ⟨cs, 0, v⟩ (x &&& 0x0f ||| 0xe0) = some ⟨cs, 2, x.toNat % 0x10⟩ := by
  rw [utf8DecodeStep, if_pos rfl, toNat_and_or x 0x0f 0xe0 4 14 rfl rfl, if_neg (by omega),
    if_neg (by omega), if_neg (by omega), if_pos (by omega),
    show (2 ^ 4 * 14 + x.toNat % 2 ^ 4) % 0x10 = x.toNat % 0x10 by omega]

theorem utf8DecodeStep_lead4 :
    utf8DecodeStep ⟨cs, 0, v⟩ (x &&& 0x07 ||| 0xf0) = some ⟨cs, 3, x.toNat % 0x08⟩ := by
  rw [utf8DecodeStep, if_pos rfl, toNat_and_or x 0x07 0xf0 3 30 rfl rfl, if_neg (by omega),
    if_neg (by omega), if_neg (by omega), if_neg (by omega),
    show (2 ^ 3 * 30 + x.toNat % 2 ^ 3) % 0x08 = x.toNat % 0x08 by omega]

theorem utf8DecodeStep_last :
    utf8DecodeStep ⟨cs, 1, v⟩ (x &&& 0x3f ||| 0x80) =
      some ⟨cs ++ [Char.ofNat (v * 0x40 + x.toNat % 0x40)], 0, 0⟩ := by
  rw [utf8DecodeStep, if_neg one_ne_zero, toNat_and_or x 0x3f 0x80 6 2 rfl rfl,
    if_neg (by omega), if_pos rfl,
    show (2 ^ 6 * 2 + x.toNat % 2 ^ 6) % 0x40 = x.toNat % 0x40 by omega]

theorem utf8DecodeStep_more (k : Nat) :
    utf8DecodeStep ⟨cs, k + 2, v⟩ (x &&& 0x3f ||| 0x80) =
      some ⟨cs, k + 1, v * 0x40 + x.toNat % 0x40⟩ := by
  rw [utf8DecodeStep, if_neg (Nat.succ_ne_zero _), toNat_and_or x 0x3f 0x80 6 2 rfl rfl,
    if_neg (by omega), if_neg (by omega : k + 2 ≠ 1),
    show (2 ^ 6 * 2 + x.toNat % 2 ^ 6) % 0x40 = x.toNat % 0x40 by omega]
  rfl

end Step

/-- **The decoder reads back one character.** From a state with no character open, the bytes of
`utf8EncodeChar c` append `c` and leave no character open. -/
theorem foldlM_utf8DecodeStep_utf8EncodeChar (cs : List Char) (c : Char) :
    (String.utf8EncodeChar c).foldlM utf8DecodeStep ⟨cs, 0, 0⟩ = some ⟨cs ++ [c], 0, 0⟩ := by
  have hc : c.val.toNat < 0x110000 := by
    rcases c.valid with h | h <;> omega
  -- the bytes as numbers: the code point's digits in base 64
  have hv : c.val.toUInt8.toNat = c.val.toNat % 256 := BitVec.toNat_ofNat _ _
  have h6 : (c.val >>> 6).toUInt8.toNat = c.val.toNat / 64 % 256 :=
    toNat_shiftRight_toUInt8 c.val 6 6 rfl (by decide)
  have h12 : (c.val >>> 12).toUInt8.toNat = c.val.toNat / 64 / 64 % 256 := by
    rw [Nat.div_div_eq_div_mul]
    exact toNat_shiftRight_toUInt8 c.val 12 12 rfl (by decide)
  have h18 : (c.val >>> 18).toUInt8.toNat = c.val.toNat / 64 / 64 / 64 % 256 := by
    rw [Nat.div_div_eq_div_mul, Nat.div_div_eq_div_mul]
    exact toNat_shiftRight_toUInt8 c.val 18 18 rfl (by decide)
  simp only [String.utf8EncodeChar, le_iff_toNat_le_uint32, UInt32.reduceToNat]
  split_ifs with h₁
  · -- one byte
    rw [List.foldlM_cons, utf8DecodeStep_ascii _ _ (hv.trans_lt (by omega)), Option.bind_eq_bind,
      Option.some_bind, List.foldlM_nil, Option.pure_def, ofNat_eq_of_toNat (c := c) (by omega)]
  -- two, three or four bytes: a lead byte, then continuation bytes
  all_goals
    simp only [List.foldlM_cons, utf8DecodeStep_lead2, utf8DecodeStep_lead3, utf8DecodeStep_lead4,
      utf8DecodeStep_more, utf8DecodeStep_last, Nat.reduceAdd, Option.bind_eq_bind,
      Option.some_bind, List.foldlM_nil, Option.pure_def]
    rw [ofNat_eq_of_toNat (c := c)]
    simp only [hv, h6, h12, h18, Nat.mod_mod_of_dvd _ (by decide : 64 ∣ 256),
      Nat.mod_mod_of_dvd _ (by decide : 32 ∣ 256), Nat.mod_mod_of_dvd _ (by decide : 16 ∣ 256),
      Nat.mod_mod_of_dvd _ (by decide : 8 ∣ 256)]
    omega

theorem foldlM_utf8DecodeStep_flatMap (l cs : List Char) :
    (l.flatMap String.utf8EncodeChar).foldlM utf8DecodeStep ⟨cs, 0, 0⟩ = some ⟨cs ++ l, 0, 0⟩ := by
  induction l generalizing cs with
  | nil => rw [List.append_nil]; rfl
  | cons c l ih =>
    rw [List.flatMap_cons, List.foldlM_append, foldlM_utf8DecodeStep_utf8EncodeChar,
      Option.bind_eq_bind, Option.some_bind, ih, List.append_assoc, List.singleton_append]

/-- The decoder reads back every string's UTF-8 bytes. -/
theorem utf8Decode_toUTF8 (s : String) : utf8Decode s.toUTF8.data.toList = some s := by
  show utf8Decode (s.data.flatMap String.utf8EncodeChar) = some s
  rw [utf8Decode, foldlM_utf8DecodeStep_flatMap]
  rfl

example : utf8Decode "jsön€😀".toUTF8.data.toList = some "jsön€😀" := by decide

theorem length_toUTF8_toList (s : String) : s.toUTF8.data.toList.length = s.utf8ByteSize :=
  s.size_toUTF8

/-! ### The hash input -/

/-- The two lengths `MakeChannelHash` writes as `uint32` hold the report format's byte count
and the number of stream IDs. -/
def ChannelDefinition.FitsHashInput (d : ChannelDefinition) : Prop :=
  d.reportFormat.utf8ByteSize < 2 ^ 32 ∧ d.streamIDs.length < 2 ^ 32

instance (d : ChannelDefinition) : Decidable d.FitsHashInput :=
  inferInstanceAs (Decidable (_ ∧ _))

/-- Reads `MakeChannelHash`'s input back: the channel ID, the report format behind its length,
the chain selector, and the stream IDs behind their count, with no byte left over. -/
def parseChannelHashInput (bs : List UInt8) : Option ChannelDefinitionWithID := do
  let (channelID, bs) ← readBigEndian 4 bs
  let (formatLength, bs) ← readBigEndian 4 bs
  let reportFormat ← utf8Decode (bs.take formatLength)
  let (chainSelector, bs) ← readBigEndian 8 (bs.drop formatLength)
  let (count, bs) ← readBigEndian 4 bs
  let (streamIDs, bs) ← readStreamIDs count bs
  if bs = [] then
    some ⟨⟨reportFormat, UInt64.ofNat chainSelector, streamIDs⟩, UInt32.ofNat channelID⟩
  else none

/-- **The parser recovers the channel.** Every definition whose lengths fit is read back, with
its ID, from the bytes `MakeChannelHash` hashes. -/
theorem parseChannelHashInput_channelHashInput {cd : ChannelDefinitionWithID}
    (h : cd.channelDefinition.FitsHashInput) :
    parseChannelHashInput (channelHashInput cd) = some cd := by
  obtain ⟨⟨format, selector, streamIDs⟩, id⟩ := cd
  obtain ⟨hf, hs⟩ := h
  have hlen := length_toUTF8_toList format
  have hids := readStreamIDs_flatten streamIDs []
  rw [List.append_nil] at hids
  simp only [channelHashInput, List.append_assoc, parseChannelHashInput, readBigEndian_bigEndian,
    Option.bind_eq_bind, Option.some_bind,
    Nat.mod_eq_of_lt (show format.utf8ByteSize < 256 ^ 4 from hf),
    Nat.mod_eq_of_lt (show streamIDs.length < 256 ^ 4 from hs), List.take_left' hlen,
    List.drop_left' hlen, utf8Decode_toUTF8, hids, ofNat_toNat_mod_uint32,
    ofNat_toNat_mod_uint64, List.append_nil, if_pos]

/-- On definitions that fit, equal hash inputs mean equal channels. -/
theorem channelHashInput_injective_iff {cd₁ cd₂ : ChannelDefinitionWithID}
    (h₁ : cd₁.channelDefinition.FitsHashInput) (h₂ : cd₂.channelDefinition.FitsHashInput) :
    channelHashInput cd₁ = channelHashInput cd₂ ↔ cd₁ = cd₂ :=
  ⟨fun h => Option.some.inj <| by
    rw [← parseChannelHashInput_channelHashInput h₁, h, parseChannelHashInput_channelHashInput h₂],
    congrArg _⟩

/-- When the proposals fit and SHA-256 has no collision among their inputs, `MakeChannelHash`
tells them apart. -/
theorem hashesDistinct_of_fitsHashInput {p : LLOPlugin} {acc : List Observation}
    (hfit : ∀ o ∈ acc, ∀ e ∈ o.addChannelDefinitions.toList, e.2.FitsHashInput)
    (hcol : ∀ o₁ ∈ acc, ∀ o₂ ∈ acc, ∀ e₁ ∈ o₁.addChannelDefinitions.toList,
      ∀ e₂ ∈ o₂.addChannelDefinitions.toList,
        p.makeChannelHash ⟨e₁.2, e₁.1⟩ = p.makeChannelHash ⟨e₂.2, e₂.1⟩ →
          channelHashInput ⟨e₁.2, e₁.1⟩ = channelHashInput ⟨e₂.2, e₂.1⟩) :
    HashesDistinct p acc := fun o₁ ho₁ o₂ ho₂ e₁ he₁ e₂ he₂ hh => by
  have h := (channelHashInput_injective_iff (hfit o₁ ho₁ e₁ he₁) (hfit o₂ ho₂ e₂ he₂)).1
    (hcol o₁ ho₁ o₂ ho₂ e₁ he₁ e₂ he₂ hh)
  obtain ⟨hd, hc⟩ := ChannelDefinitionWithID.mk.inj h
  exact Prod.ext hc hd

/-- **`MakeChannelHash` is injective on the channels it can encode.** The parser reads every
channel whose lengths fit back from its hash input; so, when SHA-256 has no collision among the
inputs of the proposals `Outcome` counts, two proposals land in one hash bucket only if they
carry the same channel ID and the same definition. -/
theorem channelHashInput_parse :
    (∀ cd : ChannelDefinitionWithID, cd.channelDefinition.FitsHashInput →
      parseChannelHashInput (channelHashInput cd) = some cd) ∧
    ∀ (p : LLOPlugin) (acc : List Observation),
      (∀ o ∈ acc, ∀ e ∈ o.addChannelDefinitions.toList, e.2.FitsHashInput) →
      (∀ o₁ ∈ acc, ∀ o₂ ∈ acc, ∀ e₁ ∈ o₁.addChannelDefinitions.toList,
        ∀ e₂ ∈ o₂.addChannelDefinitions.toList,
          p.makeChannelHash ⟨e₁.2, e₁.1⟩ = p.makeChannelHash ⟨e₂.2, e₂.1⟩ →
            channelHashInput ⟨e₁.2, e₁.1⟩ = channelHashInput ⟨e₂.2, e₂.1⟩) →
      HashesDistinct p acc :=
  ⟨fun _ => parseChannelHashInput_channelHashInput, fun _ _ => hashesDistinct_of_fitsHashInput⟩

theorem channelHashInput_parse_json :
    ChannelDefinition.FitsHashInput ⟨reportFormatJSON, knownSelector, [7]⟩ ∧
      parseChannelHashInput (channelHashInput ⟨⟨reportFormatJSON, knownSelector, [7]⟩, 5⟩) =
        some ⟨⟨reportFormatJSON, knownSelector, [7]⟩, 5⟩ :=
  ⟨by decide, channelHashInput_parse.1 _ (by decide)⟩

end LloPlugin
