import Infrarust.Core.Limbo.RegistryNbt
import Infrarust.Protocol.Play
import Infrarust.Proofs.Protocol.Codec

/-!
# `Infrarust.Proofs.Protocol.Nbt`: the skipper passes over NBT compounds and nothing else

`Encodes depth item bytes` is the binary format, with a bound on how deep lists and compounds
are nested. Where the skipper succeeds it has passed over such an encoding
(`takes_skipTagPayload`), and it passes over each of them (`Encodes.reads`). The rounds that the
loop over the children may take never run out (`run_skipChildren`).

`Fields depth bytes` says that `bytes` are some of the children of a compound. It holds of every
field the limbo code writes and is kept by appending.
-/

set_option autoImplicit false

namespace Infrarust

open List

namespace Nbt

open Readers (Reads Takes takes_pure takes_throw)
open FieldReader FieldWriter RegistryNbt

/-! ### The format -/

/-- A text with its length in front. Nothing looks at what the text is. -/
def EncodesText (bytes : Bytes) : Prop :=
  ∃ (length : UInt16) (text : Bytes), text.length = length.toNat ∧
    bytes = toBeBytes 2 length.toBitVec ++ text

/-- What an encoding is made of: the payload of a tag, the children of a compound up to its end,
and the elements of a list. -/
inductive Item where
  | payload (tag : UInt8)
  | children
  | elements (tag : UInt8) (count : Nat)

/-- The bytes of a number. -/
def numberSize : UInt8 → Option Nat
  | 1 => some 1
  | 2 => some 2
  | 3 | 5 => some 4
  | 4 | 6 => some 8
  | _ => none

/-- The bytes of an element of an array. -/
def elementSize : UInt8 → Option Nat
  | 7 => some 1
  | 11 => some 4
  | 12 => some 8
  | _ => none

/-- The encodings of an item with at most `depth` lists and compounds around any value in it. -/
inductive Encodes : Nat → Item → Bytes → Prop where
  | number {depth : Nat} {tag : UInt8} {bytes : Bytes} (htag : numberSize tag = some bytes.length) :
      Encodes depth (.payload tag) bytes
  | array {depth size : Nat} {tag : UInt8} {count : I32} {bytes : Bytes}
      (htag : elementSize tag = some size) (hcount : 0 ≤ count.toInt)
      (hlen : bytes.length = count.toNat * size) :
      Encodes depth (.payload tag) (toBeBytes 4 count ++ bytes)
  | string {depth : Nat} {bytes : Bytes} (h : EncodesText bytes) :
      Encodes depth (.payload TAG_STRING) bytes
  -- a list without elements may name any tag, and a negative number of them
  | emptyList {depth : Nat} {tag : UInt8} {count : I32} (hcount : count.toInt ≤ 0) :
      Encodes depth (.payload TAG_LIST) ([tag] ++ toBeBytes 4 count)
  | list {depth : Nat} {tag : UInt8} {count : I32} {bytes : Bytes} (hcount : 0 < count.toInt)
      (h : Encodes depth (.elements tag count.toNat) bytes) :
      Encodes (depth + 1) (.payload TAG_LIST) ([tag] ++ (toBeBytes 4 count ++ bytes))
  | compound {depth : Nat} {bytes : Bytes} (h : Encodes depth .children bytes) :
      Encodes (depth + 1) (.payload TAG_COMPOUND) bytes
  | endTag {depth : Nat} : Encodes depth .children [TAG_END]
  | child {depth : Nat} {tag : UInt8} {name bytes more : Bytes} (htag : tag ≠ TAG_END)
      (hname : EncodesText name) (h : Encodes depth (.payload tag) bytes)
      (hmore : Encodes depth .children more) :
      Encodes depth .children ([tag] ++ (name ++ (bytes ++ more)))
  | noElement {depth : Nat} {tag : UInt8} : Encodes depth (.elements tag 0) []
  | element {depth count : Nat} {tag : UInt8} {bytes more : Bytes}
      (h : Encodes depth (.payload tag) bytes) (hmore : Encodes depth (.elements tag count) more) :
      Encodes depth (.elements tag (count + 1)) (bytes ++ more)

/-- A compound with its tag and its name. -/
def EncodesCompound (depth : Nat) (bytes : Bytes) : Prop :=
  ∃ name children, EncodesText name ∧ Encodes depth .children children ∧
    bytes = [TAG_COMPOUND] ++ (name ++ children)

/-! ### What was skipped is in the format -/

variable {depth : Nat} {tag : UInt8}

theorem takes_skipBytes {n} : Takes (skipBytes n) fun block _ => block.length = n := by
  intro input _ rest h
  change (if input.length < n then _ else _) = _ at h
  split_ifs at h with hlen
  cases h
  exact ⟨input.take n, length_take_of_le (by omega), (take_append_drop n input).symm⟩

theorem takes_skipNbtString : Takes skipNbtString fun block _ => EncodesText block := by
  refine takes_readU16Be.bind fun _ length hlength => takes_skipBytes.mono fun text _ htext => ?_
  exact ⟨length, text, htext, by rw [hlength]⟩

theorem takes_skipNumber {n} (htag : numberSize tag = some n) :
    Takes (skipBytes n) fun block _ => Encodes depth (.payload tag) block :=
  takes_skipBytes.mono fun _ _ hlen => .number (hlen ▸ htag)

theorem takes_skipElements {skip}
    (h : Takes skip fun block _ => Encodes depth (.payload tag) block) (count) :
    Takes (skipElements skip count) fun block _ => Encodes depth (.elements tag count) block := by
  induction count with
  | zero => exact takes_pure .noElement
  | succ count ih => exact h.bind fun _ _ hblock => ih.mono fun _ _ hmore => .element hblock hmore

variable {skip : UInt8 → FieldReader Unit} {bytes : Bytes}

theorem takes_skipChildren
    (h : ∀ tag, Takes (skip tag) fun block _ => Encodes depth (.payload tag) block) {fuel} :
    Takes (skipChildren skip fuel) fun block _ => Encodes depth .children block := by
  induction fuel with
  | zero => exact takes_throw _
  | succ fuel ih =>
    refine takes_readU8.bind fun _ tag htag => ?_
    subst htag
    split_ifs with hend
    · subst hend
      exact takes_pure .endTag
    · exact takes_skipNbtString.bind fun _ _ hname => (h tag).bind fun _ _ hbytes =>
        ih.mono fun _ _ hmore => .child hend hname hbytes hmore

/-- The loop as the readers of a compound call it, with a round for every byte that is left. -/
def skipAllChildren (skip : UInt8 → FieldReader Unit) : FieldReader Unit := do
  skipChildren skip ((← get).length + 1)

theorem run_skipAllChildren {skip input} :
    (skipAllChildren skip).run input = (skipChildren skip (input.length + 1)).run input := rfl

theorem takes_skipAllChildren
    (h : ∀ tag, Takes (skip tag) fun block _ => Encodes depth (.payload tag) block) :
    Takes (skipAllChildren skip) fun block _ => Encodes depth .children block :=
  fun _ _ _ hrun => takes_skipChildren h hrun

/-- Where the payload of a tag is skipped, an encoding of it was. The induction is on the levels
that are left, of which a list and a compound take one. -/
theorem takes_skipTagPayload (depth tag) :
    Takes (skipTagPayload (depth + 1) tag) fun block _ => Encodes depth (.payload tag) block := by
  induction depth using Nat.strongRecOn generalizing tag with
  | ind depth ih =>
    unfold skipTagPayload
    split
    case h_1 | h_2 | h_3 | h_4 | h_5 | h_6 => exact takes_skipNumber rfl
    case h_7 | h_11 | h_12 =>
      refine takes_readI32Be.bind fun _ count hcount => ?_
      subst hcount
      split_ifs with hneg
      · exact takes_throw _
      · exact takes_skipBytes.mono fun _ _ hlen => .array rfl (by omega) hlen
    case h_8 => exact takes_skipNbtString.mono fun _ _ htext => .string htext
    case h_9 =>
      refine takes_readU8.bind fun _ tag htag => takes_readI32Be.bind fun _ count hcount => ?_
      subst htag hcount
      split_ifs with hempty
      · refine takes_pure ?_
        exact .emptyList hempty
      · cases depth with
        | zero =>
          have hcond := count.toInt_eq_toNat_cond
          obtain ⟨n, hn⟩ : ∃ n, count.toNat = n + 1 :=
            ⟨count.toNat - 1, by split_ifs at hcond <;> omega⟩
          rw [hn]
          exact (takes_throw _).bind fun _ _ (h : False) => h.elim
        | succ depth =>
          exact (takes_skipElements (ih depth (by omega) tag) _).mono fun _ _ helements =>
            .list (by omega) helements
    case h_10 =>
      cases depth with
      | zero => exact takes_throw _
      | succ depth =>
        exact (takes_skipAllChildren (ih depth (by omega))).mono fun _ _ hchildren =>
          .compound hchildren
    case h_13 => exact takes_throw _

/-! ### What is in the format is skipped -/

/-- The loop over the children ends by itself: each round takes a byte. -/
theorem run_skipChildren (h : ∀ tag, Takes (skip tag) fun _ _ => True) {m n} {input : Bytes}
    (hm : input.length < m) (hn : input.length < n) :
    (skipChildren skip m).run input = (skipChildren skip n).run input := by
  induction m generalizing n input with
  | zero => exact absurd hm (Nat.not_lt_zero _)
  | succ m ih =>
    obtain ⟨n, rfl⟩ : ∃ k, n = k + 1 := ⟨n - 1, by omega⟩
    refine takes_readU8.run_bind_congr fun _ tag rest htag hinput => ?_
    subst htag hinput
    split_ifs
    · rfl
    · refine takes_skipNbtString.run_bind_congr fun name _ rest' _ hrest => ?_
      refine (h tag).run_bind_congr fun bytes _ rest'' _ hrest' => ?_
      subst hrest hrest'
      simp only [length_append, length_singleton] at hm hn
      exact ih (by omega) (by omega)

theorem reads_skipBytes {bytes : Bytes} : Reads (skipBytes bytes.length) bytes () := by
  intro rest
  show (if (bytes ++ rest).length < bytes.length then _ else _) = _
  rw [if_neg (by simp), drop_left]

theorem EncodesText.reads (h : EncodesText bytes) : Reads skipNbtString bytes () := by
  obtain ⟨length, text, hlen, rfl⟩ := h
  exact (reads_readU16Be length).bind (hlen ▸ reads_skipBytes)

/-- What the skipper calls for an item. -/
def Item.reader (depth : Nat) : Item → FieldReader Unit
  | payload tag => skipTagPayload (depth + 1) tag
  | children => skipAllChildren (skipTagPayload (depth + 1))
  | elements tag count => skipElements (skipTagPayload (depth + 1) tag) count

theorem skipTagPayload_of_numberSize {n} (h : numberSize tag = some n) :
    skipTagPayload (depth + 1) tag = skipBytes n := by
  unfold numberSize at h
  split at h <;> cases h <;> rfl

theorem skipTagPayload_of_elementSize {size} (h : elementSize tag = some size) :
    ∃ negative, skipTagPayload (depth + 1) tag = skipArray negative size := by
  unfold elementSize at h
  split at h <;> cases h <;> exact ⟨_, rfl⟩

/-- Every encoding is skipped whole. -/
theorem Encodes.reads {item} (h : Encodes depth item bytes) :
    Reads (item.reader depth) bytes () := by
  induction h with
  | number htag =>
    rw [Item.reader, skipTagPayload_of_numberSize htag]
    exact reads_skipBytes
  | @array depth size tag count bytes htag hcount hlen =>
    obtain ⟨negative, hskip⟩ := skipTagPayload_of_elementSize htag
    rw [Item.reader, hskip]
    refine (reads_readI32Be count).bind ?_
    rw [if_neg (by omega), ← hlen]
    exact reads_skipBytes
  | string h => exact h.reads
  | @emptyList depth tag count hcount =>
    refine (reads_readU8 tag).bind fun rest => ?_
    rw [(reads_readI32Be count).run_bind, if_pos hcount]
    rfl
  | @list depth tag count bytes hcount h ih =>
    refine (reads_readU8 tag).bind ((reads_readI32Be count).bind ?_)
    rw [if_neg (by omega)]
    exact ih
  | compound h ih => exact ih
  | endTag => exact fun rest => rfl
  | @child depth tag name bytes more htag hname h hmore ih ihmore =>
    intro rest
    have hpay : Reads (skipTagPayload (depth + 1) tag) bytes () := ih
    have htakes : ∀ tag, Takes (skipTagPayload (depth + 1) tag) fun _ _ => True :=
      fun tag => (takes_skipTagPayload depth tag).mono fun _ _ _ => trivial
    rw [Item.reader, run_skipAllChildren, skipChildren, append_assoc, (reads_readU8 tag).run_bind, if_neg (show ¬tag = 0 from htag),
      append_assoc, hname.reads.run_bind, append_assoc, hpay.run_bind]
    -- what is left of the rounds is still enough for the other children
    rw [run_skipChildren htakes ?_ (Nat.lt_succ_self _)]
    · exact ihmore rest
    · simp only [length_append, length_singleton]
      omega
  | noElement => exact fun rest => rfl
  | element h hmore ih ihmore => exact ih.bind ihmore

theorem EncodesCompound.reads (h : EncodesCompound 512 bytes) : Reads skipNbtCompound bytes () := by
  obtain ⟨name, children, hname, hchildren, rfl⟩ := h
  refine (reads_readU8 TAG_COMPOUND).bind ?_
  exact hname.reads.bind hchildren.reads

theorem takes_skipNbtCompound : Takes skipNbtCompound fun block _ => EncodesCompound 512 block := by
  refine takes_readU8.bind fun _ tag htag => ?_
  split_ifs with hcomp
  · exact takes_throw _
  · rw [not_ne_iff.mp hcomp] at htag
    subst htag
    exact takes_skipNbtString.bind fun name _ hname =>
      (takes_skipAllChildren (takes_skipTagPayload 512)).mono fun children _ hchildren =>
        ⟨name, children, hname, hchildren, rfl⟩

/-- The skipper succeeds just where a compound stands that is nested at most 512 deep, and goes
on behind it. The loop over the children of any compound ends by itself. -/
theorem skipNbtCompound_iff (input rest : Bytes) :
    (skipNbtCompound.run input = .ok ((), rest) ↔
      ∃ block, EncodesCompound 512 block ∧ input = block ++ rest) ∧
    ∀ levels fuel, input.length < fuel →
      (skipChildren (skipTagPayload levels) fuel).run input
        = (skipAllChildren (skipTagPayload levels)).run input := by
  constructor
  · constructor
    · exact fun h => takes_skipNbtCompound h
    · rintro ⟨block, hblock, rfl⟩
      exact hblock.reads rest
  · intro levels fuel hfuel
    refine run_skipChildren (fun tag => ?_) hfuel (Nat.lt_succ_self _)
    cases levels with
    | zero => exact takes_throw _
    | succ depth => exact (takes_skipTagPayload depth tag).mono fun _ _ _ => trivial

/-! ### The fields of the limbo code -/

/-- `bytes` are children of a compound, in front of others. -/
def Fields (depth : Nat) (bytes : Bytes) : Prop :=
  ∀ more, Encodes depth .children more → Encodes depth .children (bytes ++ more)

theorem Fields.nil : Fields depth [] := fun _ h => h

theorem Fields.append {bytes'} (h : Fields depth bytes) (h' : Fields depth bytes') :
    Fields depth (bytes ++ bytes') := by
  intro more hmore
  rw [append_assoc]
  exact h _ (h' more hmore)

theorem encodesText_writeNbtString {s : String} (h : s.utf8ByteSize < 65536) :
    EncodesText (writeNbtString s) := by
  refine ⟨UInt16.ofNat s.toByteArray.toList.length, s.toByteArray.toList, ?_, rfl⟩
  rw [UInt16.toNat_ofNat', length_toList_toByteArray]
  omega

section Writers

variable {name : String} (hname : name.utf8ByteSize < 65536)

include hname

theorem Fields.field {payload} (htag : tag ≠ TAG_END)
    (h : Encodes depth (.payload tag) payload) : Fields depth (writeNbtField tag name payload) := by
  intro more hmore
  rw [writeNbtField, cons_append, append_assoc]
  exact .child htag (encodesText_writeNbtString hname) h hmore

theorem fields_byte (value) : Fields depth (writeNbtByteField name value) :=
  .field hname (by decide) (.number rfl)

theorem fields_int (value) : Fields depth (writeNbtIntField name value) :=
  .field hname (by decide) (.number (congrArg some (length_toBeBytes 4 value).symm))

theorem fields_float (value) : Fields depth (writeNbtFloatField name value) :=
  .field hname (by decide) (.number (congrArg some (length_toBeBytes 4 value).symm))

theorem fields_double (value) : Fields depth (writeNbtDoubleField name value) :=
  .field hname (by decide) (.number (congrArg some (length_toBeBytes 8 value).symm))

theorem fields_string {value : String} (hval : value.utf8ByteSize < 65536) :
    Fields depth (writeNbtStringField name value) :=
  .field hname (by decide) (.string (encodesText_writeNbtString hval))

theorem fields_compound {fields} (h : Fields depth fields) :
    Fields (depth + 1) (writeNbtCompoundField name fields) :=
  .field hname (by decide) (.compound (h _ .endTag))

theorem fields_list {count : I32} {elements} (hcount : 0 < count.toInt)
    (h : Encodes depth (.elements tag count.toNat) elements) :
    Fields (depth + 1) (writeNbtListField name tag count elements) :=
  .field hname (by decide) (.list hcount h)

/-- A compound is skipped whole. -/
theorem reads_skipNbtCompound {fields} (h : Fields 512 fields) :
    Reads skipNbtCompound (writeNbtCompoundField name fields) () :=
  EncodesCompound.reads ⟨_, _, encodesText_writeNbtString hname, h _ .endTag, rfl⟩

end Writers

end Nbt

end Infrarust
