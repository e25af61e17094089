import Dswifi.Twl.KeyState
import Dswifi.TypedElements

/-! The key data of a message. Its length is from the air and is not compared with the
length of the message, and the elements that come out of the key unwrap are walked through
as if the last one was never cut off. The unwrap itself refuses some lengths before it looks
at the key data. -/

namespace Dswifi.Twl

open ByteMemory Reading TypedElements

/-! The elements that are group keys. -/

def isGtk (element : Element) : Bool :=
  element.1 = 0xDD ∧ expectedKeytype <+: element.2 ∧ (element.2.length = 0x16 ∨ element.2.length = 0x26)

/-- The bodies of the group keys of a text, in order. -/
def gtkBodies (text : List UInt8) : List (List UInt8) := ((elements text).filter isGtk).map Prod.snd

def padGtk (body : List UInt8) : GtkKeyinfo := body ++ List.replicate (gtkKeyinfoSize - body.length) 0

/-- The last group key, or all zeros. -/
def gtkRecord (text : List UInt8) : GtkKeyinfo := padGtk ((gtkBodies text).getLast?.getD [])

/-- Copies to one record, each of which leaves what is behind it. -/
def copies (out : List UInt8) (bodies : List (List UInt8)) : List UInt8 :=
  bodies.foldl (fun out body => body ++ out.drop body.length) out

/-- What is left of the elements where one starts: its length is there, there is as much
behind it as the type of a key takes, and a key is not cut off. -/
def KeyInside : List UInt8 → Prop
  | [] => True
  | [_] => False
  | type :: length :: behind =>
      type = 0xDD → expectedKeytype.length ≤ behind.length ∧
        (expectedKeytype <+: behind → length = 0x16 ∨ length = 0x26 → length.toNat ≤ behind.length)

def KeysInside (text : List UInt8) : Prop := ∀ rest ∈ starts text, KeyInside rest

/-- A short key that is the last one is not behind a long one with something at its end. -/
def KeysCovered (text : List UInt8) : Prop :=
  ∀ last ∈ (gtkBodies text).getLast?, last.length = 0x16 →
    ∀ long ∈ ((gtkBodies text).filter fun body => body.length = 0x26).getLast?,
      long.drop 0x16 = List.replicate 0x10 0

/-- What is at a place of a buffer is copied as a key, whatever is behind it. -/
def TakenForKey (mem : Memory) (pos : Nat) : Prop :=
  mem pos = 0xDD ∧ readBytes mem (pos + 2) expectedKeytype.length = expectedKeytype ∧
    (mem (pos + 1) = 0x16 ∨ mem (pos + 1) = 0x26)

instance (mem : Memory) (pos : Nat) : Decidable (TakenForKey mem pos) := inferInstanceAs (Decidable (_ ∧ _ ∧ _))

/-- What is left of the text behind its whole elements, with what the buffer has behind it,
is not taken for a key. -/
def RestIsNoKey (output : Memory) (text : List UInt8) : Prop :=
  ((elements text).flatMap bytesOf).length < text.length →
    ¬TakenForKey output ((elements text).flatMap bytesOf).length

instance (output : Memory) (text : List UInt8) : Decidable (RestIsNoKey output text) :=
  inferInstanceAs (Decidable (_ → _))

variable {mem : Memory} {text : List UInt8} {found : List Element}

section Walk
variable {type length : UInt8} {behind : List UInt8} {fuel pos decryptedLength : Nat}

/-- What the record is behind one element. -/
def behindElement (mem : Memory) (pos : Nat) (out : GtkKeyinfo) : GtkKeyinfo :=
  if TakenForKey mem pos then readBytes mem (pos + 2) (mem (pos + 1)).toNat ++ out.drop (mem (pos + 1)).toNat
  else out

theorem value_isKeyAt (type : UInt8) (pos : Nat) :
    (isKeyAt type pos).value mem =
      decide (type = 0xDD ∧ readBytes mem pos expectedKeytype.length = expectedKeytype) := by
  rw [isKeyAt]
  by_cases vendor : type = 0xDD
  · rw [if_pos vendor, value_memcmpEqual]
    simp only [vendor, true_and]
  · rw [if_neg vendor, value_pure]
    simp only [vendor, false_and, decide_false]

theorem takenForKey_iff (mem : Memory) (pos : Nat) : TakenForKey mem pos ↔
    ((isKeyAt (mem pos) (pos + 2)).value mem && (mem (pos + 1) = 0x16 || mem (pos + 1) = 0x26)) = true := by
  rw [value_isKeyAt, TakenForKey]
  simp [and_assoc]

/-- One element of the walk. -/
theorem gtkElements_succ (inside : pos < decryptedLength) (out : GtkKeyinfo) :
    (gtkElements decryptedLength (fuel + 1) pos out).value mem =
      (gtkElements decryptedLength fuel (pos + 2 + (mem (pos + 1)).toNat) (behindElement mem pos out)).value mem := by
  rw [gtkElements, if_pos inside]
  rw [value_bind, value_bind, value_bind, value_byte, value_byte]
  by_cases key : TakenForKey mem pos
  · rw [if_pos ((takenForKey_iff mem pos).mp key), value_bind, value_bytes, behindElement, if_pos key,
      readBytes_length]
  · rw [if_neg (fun goes => key ((takenForKey_iff mem pos).mpr goes)), behindElement, if_neg key]

theorem within_gtkElements_succ {limit : Nat} (inside : pos < decryptedLength) (out : GtkKeyinfo) :
    Within limit (gtkElements decryptedLength (fuel + 1) pos out) mem ↔
      (pos + 1 < limit ∧ (mem pos = 0xDD → pos + 2 + expectedKeytype.length ≤ limit) ∧
        (TakenForKey mem pos → pos + 2 + (mem (pos + 1)).toNat ≤ limit)) ∧
      Within limit
        (gtkElements decryptedLength fuel (pos + 2 + (mem (pos + 1)).toNat) (behindElement mem pos out)) mem := by
  have compared : Within limit (isKeyAt (mem pos) (pos + 2)) mem ↔
      (mem pos = 0xDD → pos + 2 + expectedKeytype.length ≤ limit) := by
    rw [isKeyAt, within_guard, within_memcmpEqual, or_iff_right (by decide)]
  rw [gtkElements, if_pos inside]
  rw [within_bind, within_bind, within_bind, value_byte, value_byte, within_byte, within_byte, compared]
  by_cases key : TakenForKey mem pos
  · have sizes : (mem (pos + 1)).toNat ≠ 0 := by
      rcases key.2.2 with short | long
      · simp [short]
      · simp [long]
    rw [if_pos ((takenForKey_iff mem pos).mp key), within_bind, within_bytes, value_bytes, behindElement, if_pos key,
      readBytes_length, forall_prop_of_true key, or_iff_right sizes]
    grind
  · rw [if_neg (fun goes => key ((takenForKey_iff mem pos).mpr goes)), behindElement, if_neg key,
      forall_prop_of_false key]
    grind

/-- A complete element is copied exactly if it is a group key. -/
theorem behindElement_whole {contents rest : List UInt8} (exact : contents.length = length.toNat)
    (there : InPlace mem pos (type :: length :: (contents ++ rest))) (out : GtkKeyinfo) :
    behindElement mem pos out = if isGtk (type, contents) then contents ++ out.drop contents.length else out := by
  obtain ⟨isType, isLength, here, -⟩ := element_inPlace there
  have size : (length = 0x16 ∨ length = 0x26) ↔ (contents.length = 0x16 ∨ contents.length = 0x26) := by
    rw [exact, ← UInt8.toNat_inj, ← UInt8.toNat_inj]
    rfl
  have agree (long : contents.length = 0x16 ∨ contents.length = 0x26) :
      readBytes mem (pos + 2) expectedKeytype.length = expectedKeytype ↔ expectedKeytype <+: contents := by
    have four : expectedKeytype.length = 4 := rfl
    rw [here.readBytes_eq (by omega), List.prefix_iff_eq_take]
    exact eq_comm
  have same : TakenForKey mem pos ↔ isGtk (type, contents) = true := by
    rw [TakenForKey, isGtk, decide_eq_true_iff, isType, isLength, size]
    exact and_congr_right fun _ => and_congr_left agree
  have whole : readBytes mem (pos + 2) length.toNat = contents := by
    rw [← exact]
    exact here
  rw [behindElement, isLength, whole, exact]
  simp only [same]

/-- One element of the walk in its text. -/
theorem keyInside_iff (there : InPlace mem pos (type :: length :: behind)) :
    KeyInside (type :: length :: behind) ↔
      pos + 1 < pos + 2 + behind.length ∧
        (mem pos = 0xDD → pos + 2 + expectedKeytype.length ≤ pos + 2 + behind.length) ∧
        (TakenForKey mem pos → pos + 2 + (mem (pos + 1)).toNat ≤ pos + 2 + behind.length) := by
  obtain ⟨isType, isLength, rest⟩ := header_inPlace there
  rw [isType, isLength, and_iff_right (by omega), Nat.add_le_add_iff_left, Nat.add_le_add_iff_left, KeyInside,
    TakenForKey, isType, isLength]
  constructor
  · intro inside
    refine ⟨fun vendor => (inside vendor).1, fun ⟨vendor, agree, size⟩ => ?_⟩
    obtain ⟨long, whole⟩ := inside vendor
    rw [rest.readBytes_eq long] at agree
    exact whole (List.prefix_iff_eq_take.mpr agree.symm) size
  · rintro ⟨long, whole⟩ vendor
    refine ⟨long vendor, fun agree size => whole ⟨vendor, ?_, size⟩⟩
    rw [rest.readBytes_eq (long vendor)]
    exact (List.prefix_iff_eq_take.mp agree).symm

theorem gtkElements_end (done : decryptedLength ≤ pos) (out : GtkKeyinfo) :
    gtkElements decryptedLength fuel pos out = pure out := by
  cases fuel with
  | zero => rfl
  | succ fuel => rw [gtkElements, if_neg (Nat.not_lt.mpr done)]

end Walk

/-- Padding of a few bytes behind whole elements is looked at as a key, and so is what is
behind the padding. -/
theorem padding_outside {zeros : Nat} (few : zeros ≤ 4) (small : ∀ element ∈ found, element.2.length < 256) :
    ¬KeysInside (found.flatMap bytesOf ++ 0xDD :: List.replicate zeros 0) := by
  intro inside
  -- the padding is an element that starts, and has no room for the type of a key
  have last := inside _ (mem_starts_flatMap small (0xDD :: List.replicate zeros 0))
  cases zeros with
  | zero => exact last
  | succ zeros =>
      have long := (last rfl).1
      rw [List.length_replicate] at long
      exact absurd (long.trans (Nat.le_of_succ_le_succ few)) (by decide)

theorem keysInside_none (splits : Splits text []) : KeysInside text ↔ KeyInside text := by
  rw [KeysInside, splits.starts_none, List.forall_mem_singleton]

section Elements
variable {fuel pos : Nat}

/-- The walk stays in the decrypted bytes exactly if the keys do. -/
theorem within_gtkElements (splits : Splits text found) (there : InPlace mem pos text) (enough : text.length ≤ fuel)
    (out : GtkKeyinfo) :
    Within (pos + text.length) (gtkElements (pos + text.length) fuel pos out) mem ↔ KeysInside text := by
  -- over the whole elements; the walk ends behind what is left of the text
  induction splits generalizing fuel pos out with
  | @short text small =>
      rw [keysInside_none (.short small)]
      match text, fuel, small, enough with
      | [], fuel, _, _ =>
          rw [List.length_nil, Nat.add_zero, gtkElements_end le_rfl]
          exact iff_of_true (within_pure _) trivial
      | [_], fuel + 1, _, _ =>
          rw [List.length_singleton, within_gtkElements_succ (Nat.lt_succ_self pos)]
          exact iff_of_false (fun inside => Nat.lt_irrefl _ inside.1.1) id
  | @cut type length rest past =>
      have size : pos + (type :: length :: rest).length = pos + 2 + rest.length := by
        rw [List.length_cons, List.length_cons]
        omega
      have isLength := (header_inPlace there).2.1
      cases fuel with
      | zero => cases enough
      | succ fuel =>
          have ends : pos + 2 + rest.length ≤ pos + 2 + length.toNat := by omega
          rw [keysInside_none (.cut past), keyInside_iff there, size, within_gtkElements_succ (by omega), isLength,
            gtkElements_end ends, and_iff_left (within_pure _)]
  | @element type length contents rest found exact more ih =>
      have size : pos + (type :: length :: (contents ++ rest)).length = pos + 2 + length.toNat + rest.length := by
        rw [List.length_cons, List.length_cons, List.length_append]
        omega
      have limit : pos + 2 + (contents ++ rest).length = pos + 2 + length.toNat + rest.length := by
        rw [List.length_append]
        omega
      obtain ⟨-, isLength, -, behind⟩ := element_inPlace there
      rw [exact] at behind
      cases fuel with
      | zero => cases enough
      | succ fuel =>
          have enough' : rest.length ≤ fuel := by omega
          rw [KeysInside, starts_element rest exact, List.forall_mem_cons, keyInside_iff there, limit, size,
            within_gtkElements_succ (by omega), isLength]
          exact and_congr_right fun _ => ih behind enough' _

/-- It copies the bodies of the complete keys, if what is left of the text is not taken for
one as well. -/
theorem gtkElements_copies (splits : Splits text found) (there : InPlace mem pos text) (enough : text.length ≤ fuel)
    (rest : (found.flatMap bytesOf).length < text.length → ¬TakenForKey mem (pos + (found.flatMap bytesOf).length))
    (out : GtkKeyinfo) :
    (gtkElements (pos + text.length) fuel pos out).value mem = copies out ((found.filter isGtk).map Prod.snd) := by
  -- over the whole elements, with the record as it is then
  induction splits generalizing fuel pos out with
  | @short text small =>
      match text, fuel, small, enough with
      | [], fuel, _, _ =>
          rw [List.length_nil, Nat.add_zero, gtkElements_end le_rfl]
          rfl
      | [_], fuel + 1, _, _ =>
          have other : ¬TakenForKey mem pos := rest Nat.one_pos
          rw [List.length_singleton, gtkElements_succ (Nat.lt_succ_self pos), gtkElements_end (by omega), behindElement,
            if_neg other]
          rfl
  | @cut type length behind past =>
      have isLength := (header_inPlace there).2.1
      cases fuel with
      | zero => cases enough
      | succ fuel =>
          have other : ¬TakenForKey mem pos := rest (Nat.succ_pos _)
          have size : (type :: length :: behind).length = 2 + behind.length := by
            rw [List.length_cons, List.length_cons]
            omega
          rw [size, gtkElements_succ (by omega), isLength, gtkElements_end (by omega), behindElement, if_neg other]
          rfl
  | @element type length contents behind found exact more ih =>
      have size : pos + (type :: length :: (contents ++ behind)).length = pos + 2 + length.toNat + behind.length := by
        rw [List.length_cons, List.length_cons, List.length_append]
        omega
      obtain ⟨-, isLength, -, after⟩ := element_inPlace there
      rw [exact] at after
      have whole : (((type, contents) :: found).flatMap bytesOf).length =
          2 + length.toNat + (found.flatMap bytesOf).length := by
        have first : (bytesOf (type, contents)).length = contents.length + 2 := rfl
        rw [List.flatMap_cons, List.length_append, first, exact, Nat.add_comm 2]
      rw [whole] at rest
      cases fuel with
      | zero => cases enough
      | succ fuel =>
          have enough' : behind.length ≤ fuel := by omega
          have rest' : (found.flatMap bytesOf).length < behind.length →
              ¬TakenForKey mem (pos + 2 + length.toNat + (found.flatMap bytesOf).length) := by
            intro some
            have place : pos + (2 + length.toNat + (found.flatMap bytesOf).length) =
                pos + 2 + length.toNat + (found.flatMap bytesOf).length := by omega
            rw [← place]
            exact rest (by omega)
          rw [size, gtkElements_succ (by omega), isLength, ih after enough' rest', behindElement_whole exact there,
            List.filter_cons]
          split
          · rfl
          · rfl

/-- What is left of a text is not taken for a key if every key that starts is inside. -/
theorem keysInside_rest (splits : Splits text found) (there : InPlace mem pos text) (inside : KeysInside text)
    (some : (found.flatMap bytesOf).length < text.length) :
    ¬TakenForKey mem (pos + (found.flatMap bytesOf).length) := by
  induction splits generalizing pos with
  | @short text small =>
      rw [keysInside_none (.short small)] at inside
      match text, small, some with
      | [_], _, _ => exact inside.elim
  | @cut type length rest past =>
      rw [keysInside_none (.cut past), keyInside_iff there, (header_inPlace there).2.1] at inside
      intro taken
      exact absurd (inside.2.2 taken) (by omega)
  | @element type length contents rest found exact more ih =>
      rw [KeysInside, starts_element rest exact, List.forall_mem_cons] at inside
      obtain ⟨-, -, -, behind⟩ := element_inPlace there
      have first : (bytesOf (type, contents)).length = contents.length + 2 := rfl
      rw [List.flatMap_cons, List.length_append, first] at some ⊢
      have later := ih behind inside.2 (by simp only [List.length_cons, List.length_append] at some; omega)
      have place : pos + (contents.length + 2 + (found.flatMap bytesOf).length) =
          pos + 2 + contents.length + (found.flatMap bytesOf).length := by omega
      rwa [place]

end Elements

/-! The record. -/

section Record
variable {out : List UInt8} {bodies : List (List UInt8)}

def KeySizes (bodies : List (List UInt8)) : Prop := ∀ body ∈ bodies, body.length = 0x16 ∨ body.length = 0x26

theorem gtkBodies_sizes (text : List UInt8) : KeySizes (gtkBodies text) := by
  intro body member
  obtain ⟨element, key, rfl⟩ := List.mem_map.mp member
  exact (of_decide_eq_true (List.mem_filter.mp key).2).2.2

theorem copies_concat (out : List UInt8) (front : List (List UInt8)) (last : List UInt8) :
    copies out (front ++ [last]) = last ++ (copies out front).drop last.length := by
  rw [copies, List.foldl_append]
  rfl

theorem copies_length (sizes : KeySizes bodies) (whole : out.length = gtkKeyinfoSize) :
    (copies out bodies).length = gtkKeyinfoSize := by
  induction bodies using List.reverseRecOn with
  | nil => exact whole
  | append_singleton front last ih =>
      obtain ⟨before, here⟩ := List.forall_mem_append.mp sizes
      have size := List.forall_mem_singleton.mp here
      have record : gtkKeyinfoSize = 0x26 := rfl
      rw [copies_concat, List.length_append, List.length_drop, ih before]
      omega

theorem copies_past (sizes : KeySizes bodies) (whole : out.length = gtkKeyinfoSize) :
    (copies out bodies).drop 0x26 = [] :=
  List.drop_eq_nil_iff.mpr (Nat.le_of_eq (copies_length sizes whole))

/-- The end of the record is that of the last long key. -/
theorem copies_end (sizes : KeySizes bodies) (whole : out.length = gtkKeyinfoSize) :
    (copies out bodies).drop 0x16 =
      ((bodies.filter fun body => body.length = 0x26).getLast?.getD out).drop 0x16 := by
  induction bodies using List.reverseRecOn with
  | nil => rfl
  | append_singleton front last ih =>
      obtain ⟨before, here⟩ := List.forall_mem_append.mp sizes
      rw [copies_concat, List.filter_append]
      rcases List.forall_mem_singleton.mp here with short | long
      · rw [short, List.filter_singleton, short, List.drop_left' short, ih before]
        simp
      · rw [long, copies_past before whole, List.filter_singleton, long, List.append_nil]
        simp

/-- The record is the last key unless a short one has left something behind it. -/
theorem copies_eq_last (sizes : KeySizes bodies) :
    copies (List.replicate gtkKeyinfoSize 0) bodies = padGtk (bodies.getLast?.getD []) ↔
      ∀ last ∈ bodies.getLast?, last.length = 0x16 →
        ∀ long ∈ (bodies.filter fun body => body.length = 0x26).getLast?,
          long.drop 0x16 = List.replicate 0x10 0 := by
  have blank : (List.replicate gtkKeyinfoSize (0 : UInt8)).length = gtkKeyinfoSize := List.length_replicate
  rcases List.eq_nil_or_concat' bodies with rfl | ⟨front, last, rfl⟩
  · exact iff_of_true rfl (by simp)
  · obtain ⟨before, here⟩ := List.forall_mem_append.mp sizes
    rw [copies_concat, List.getLast?_concat, Option.getD_some, padGtk, List.append_right_inj]
    rcases List.forall_mem_singleton.mp here with short | long
    · have skipped : ((front ++ [last]).filter fun body => body.length = 0x26) =
          front.filter fun body => body.length = 0x26 := by
        rw [List.filter_append, List.filter_singleton, short]
        exact List.append_nil _
      rw [short, copies_end before blank, skipped]
      cases (front.filter fun body => body.length = 0x26).getLast? with
      | none => simp [gtkKeyinfoSize]
      | some long => simp [gtkKeyinfoSize, short]
    · rw [long, copies_past before blank]
      refine iff_of_true rfl fun last' same short => ?_
      obtain rfl := Option.some.inj same
      rw [long] at short
      cases short

end Record

/-- The walk ends: every element takes two bytes at least. -/
theorem gtkElements_ends {decryptedLength fuel pos : Nat} (enough : decryptedLength ≤ pos + fuel) (more : Nat)
    (out : GtkKeyinfo) :
    gtkElements decryptedLength (fuel + more) pos out = gtkElements decryptedLength fuel pos out := by
  induction fuel generalizing pos out with
  | zero =>
      have done : decryptedLength ≤ pos := enough
      rw [gtkElements_end done, gtkElements_end done]
  | succ fuel ih =>
      by_cases inside : pos < decryptedLength
      · rw [Nat.add_right_comm, gtkElements, gtkElements, if_pos inside, if_pos inside]
        refine congrArg (byte pos >>= ·) (funext fun type => congrArg (byte (pos + 1) >>= ·) (funext fun length =>
          congrArg (isKeyAt type (pos + 2) >>= ·) (funext fun isKey => ?_)))
        have later : decryptedLength ≤ pos + 2 + length.toNat + fuel := by omega
        split
        · exact congrArg (bytes (pos + 2) length.toNat >>= ·) (funext fun key => ih later _)
        · exact ih later _
      · have done := Nat.le_of_not_lt inside
        rw [gtkElements_end done, gtkElements_end done]

/-! The message. -/

section Handler
variable (crypto : Crypto) (device : Device) (message : Message) (len : Nat)

def Message.keyDataLen : Nat := ((getBe16 keyDataLenPos).value message.packet).toNat

/-- What the key unwrap makes of the key data. -/
def unwrapped : Unwrapped := crypto.nistKwUnwrap device.devicePtk.kek message.keyData message.stack

def decrypted : List UInt8 :=
  readBytes (unwrapped crypto device message).output 0 (unwrapped crypto device message).length

/-- The walk through the decrypted bytes, with as much fuel as may be. -/
def gtkWalk (more : Nat) : Reading GtkKeyinfo :=
  gtkElements (unwrapped crypto device message).length ((unwrapped crypto device message).length + more) 0
    (List.replicate gtkKeyinfoSize 0)

/-- A message of `len` bytes is read inside of these and the decrypted bytes inside of
those, the walk ends, and the record is the last group key. -/
structure KeyDataParsed : Prop where
  frame : Within len (dataHandleAuth crypto device message) message.packet
  inside : message.HasKeys → Within (unwrapped crypto device message).length (gtkWalk crypto device message 0)
    (unwrapped crypto device message).output
  ends : message.HasKeys → ∀ more, gtkWalk crypto device message more = gtkWalk crypto device message 0
  record : message.HasKeys →
    (received crypto device message).deviceGtkKeyinfo = gtkRecord (decrypted crypto device message)

structure KeyDataFits : Prop where
  header : bodyPos ≤ len
  keyData : message.HasKeys → UnwrapTakes gtkDecSize message.keyDataLen → bodyPos + message.keyDataLen ≤ len
  inside : message.HasKeys → KeysInside (decrypted crypto device message)
  covered : message.HasKeys → KeysCovered (decrypted crypto device message)

variable {crypto device message len}

theorem within_getBe16 {limit pos : Nat} : Within limit (getBe16 pos) mem ↔ pos + 1 < limit := by
  rw [getBe16, within_bind, within_byte, within_bind, within_byte, and_iff_left (within_pure _)]
  omega

theorem within_dataHandleAuth : Within len (dataHandleAuth crypto device message) message.packet ↔
    bodyPos ≤ len ∧
      (message.HasKeys → UnwrapTakes gtkDecSize message.keyDataLen → bodyPos + message.keyDataLen ≤ len) := by
  have info : (getBe16 keyInfoPos).value message.packet = message.keyInfo := rfl
  have places : keyInfoPos = 5 ∧ replayPos = 9 ∧ noncePos = 17 ∧ rscPos = 65 ∧ micPos = 81 ∧
      keyDataLenPos = 97 ∧ bodyPos = 99 := by decide
  have first : (0x008A : UInt16) ≠ 0x13CA ∧ (0x008A : UInt16) ≠ 0x1382 := by decide
  have other : (0x1382 : UInt16) ≠ 0x13CA := by decide
  rw [dataHandleAuth, within_bind, within_getBe16, within_bind, within_getBe16, within_bind, within_bytes, info,
    Message.HasKeys]
  by_cases start : message.keyInfo = 0x008A
  · rw [if_pos start, within_bind, within_bytes, start]
    simp only [within_pure, first, false_or, false_imp_iff, and_true]
    omega
  · rw [if_neg start]
    by_cases last : message.keyInfo = 0x13CA
    · rw [if_pos last, within_bind, within_bytes, last]
      simp only [within_bind, within_bytes, within_unwrapText, within_pure, true_or, forall_const, and_true]
      change _ ∧ _ ∧ _ ∧ _ ∧ (UnwrapTakes gtkDecSize message.keyDataLen → bodyPos + message.keyDataLen ≤ len) ∧ _ ↔ _
      grind
    · rw [if_neg last]
      by_cases renewal : message.keyInfo = 0x1382
      · rw [if_pos renewal, within_bind, within_unwrapText, renewal]
        simp only [within_bind, within_bytes, within_pure, or_true, forall_const, and_true]
        change _ ∧ _ ∧ _ ∧ (UnwrapTakes gtkDecSize message.keyDataLen → bodyPos + message.keyDataLen ≤ len) ∧ _ ↔ _
        grind
      · rw [if_neg renewal]
        simp only [within_pure, last, renewal, or_self, false_imp_iff, and_true]
        omega

theorem received_record (hasKeys : message.HasKeys) : (received crypto device message).deviceGtkKeyinfo =
    (gtkWalk crypto device message 0).value (unwrapped crypto device message).output := by
  obtain ⟨answered, loaded, -, ptk, -⟩ := @received_hasKeys crypto device message hasKeys
  obtain ⟨sent, same⟩ := @loadKeys_eq crypto answered message.stack message.keyData message.rsc _ rfl
  rw [loaded, same, ptk]
  rfl

/-- The decrypted bytes are the start of the buffer. -/
theorem decrypted_inPlace :
    (decrypted crypto device message).length = (unwrapped crypto device message).length ∧
      InPlace (unwrapped crypto device message).output 0 (decrypted crypto device message) := by
  have size : (decrypted crypto device message).length = (unwrapped crypto device message).length :=
    readBytes_length ..
  refine ⟨size, ?_⟩
  rw [InPlace, size]
  rfl

theorem within_gtkWalk : Within (unwrapped crypto device message).length (gtkWalk crypto device message 0)
    (unwrapped crypto device message).output ↔ KeysInside (decrypted crypto device message) := by
  obtain ⟨size, there⟩ := @decrypted_inPlace crypto device message
  have walk := within_gtkElements (elements_splits _) there le_rfl (List.replicate gtkKeyinfoSize 0)
  rwa [size, Nat.zero_add] at walk

theorem value_gtkWalk (rest : RestIsNoKey (unwrapped crypto device message).output (decrypted crypto device message)) :
    (gtkWalk crypto device message 0).value (unwrapped crypto device message).output =
      copies (List.replicate gtkKeyinfoSize 0) (gtkBodies (decrypted crypto device message)) := by
  obtain ⟨size, there⟩ := @decrypted_inPlace crypto device message
  have walk := gtkElements_copies (elements_splits _) there le_rfl
    (fun some => by rw [Nat.zero_add]; exact rest some) (List.replicate gtkKeyinfoSize 0)
  rwa [size, Nat.zero_add] at walk

theorem restIsNoKey (inside : KeysInside (decrypted crypto device message)) :
    RestIsNoKey (unwrapped crypto device message).output (decrypted crypto device message) := by
  intro some
  have rest := keysInside_rest (elements_splits _) (@decrypted_inPlace crypto device message).2 inside some
  rwa [Nat.zero_add] at rest

/-- The key data is read as it is meant to be exactly if it fits. -/
theorem key_data_parsed_iff (crypto : Crypto) (device : Device) (message : Message) (len : Nat) :
    KeyDataParsed crypto device message len ↔ KeyDataFits crypto device message len := by
  have within := @within_gtkWalk crypto device message
  have value (inside : KeysInside (decrypted crypto device message)) := value_gtkWalk (restIsNoKey inside)
  have last := copies_eq_last (gtkBodies_sizes (decrypted crypto device message))
  constructor
  · rintro ⟨frame, inside, -, record⟩
    obtain ⟨header, keyData⟩ := within_dataHandleAuth.mp frame
    have keys (hasKeys : message.HasKeys) := within.mp (inside hasKeys)
    refine ⟨header, keyData, keys, fun hasKeys => last.mp ?_⟩
    rw [← value (keys hasKeys), ← received_record hasKeys]
    exact record hasKeys
  · rintro ⟨header, keyData, keys, covered⟩
    refine ⟨within_dataHandleAuth.mpr ⟨header, keyData⟩, fun hasKeys => within.mpr (keys hasKeys),
      fun _ more => ?_, fun hasKeys => ?_⟩
    · exact gtkElements_ends (Nat.le_add_left ..) more _
    · rw [received_record hasKeys, value (keys hasKeys)]
      exact last.mpr (covered hasKeys)

end Handler

/-! A handshake 3/4 as access points send it: an RSN element, a group key for AES, and the
padding that makes the key data a number of whole blocks. -/

def rsnAndGtk : List UInt8 :=
  [0x30, 0x14, 1, 0, 0, 0x0f, 0xac, 4, 1, 0, 0, 0x0f, 0xac, 4, 1, 0, 0, 0x0f, 0xac, 2, 0, 0,
    0xDD, 0x16, 0, 0x0f, 0xAC, 1, 1, 0] ++ List.replicate 16 9 ++ [0xDD, 0]

/-- What they are for the key of `halfway`. -/
def wrappedKeyData : List UInt8 :=
  [233, 29, 184, 189, 2, 8, 202, 56, 3, 100, 95, 79, 30, 123, 193, 83, 0, 9, 17, 215, 213, 223, 5, 34, 188,
    225, 183, 55, 60, 195, 253, 114, 252, 114, 140, 239, 185, 126, 8, 53, 30, 200, 125, 76, 107, 203, 184, 160,
    53, 186, 74, 89, 226, 194, 162, 207]

/-- One text that unwraps, and a failure for every other. -/
def unwrapsOne : Crypto where
  hmacSha1 := tooShort.hmacSha1
  nistKwUnwrap := fun kek data output =>
    if kek = halfway.devicePtk.kek ∧ data = wrappedKeyData then
      { result := 0, length := rsnAndGtk.length, output := writeBytes output 0 rsnAndGtk }
    else { result := -0x6300, length := 0, output }

def usualHandshake3 : Message where
  packet := fun pos =>
    ([2, 3, 0, 151, 2, 0x13, 0xCA, 0, 16, 0, 0, 0, 0, 0, 0, 0, 2] ++ List.replicate 64 0 ++
      [13, 151, 244, 16, 56, 239, 206, 153, 236, 139, 120, 78, 40, 61, 52, 41, 0, 56] ++ wrappedKeyData).getD pos 0
  devBssid := [0, 9, 191, 1, 2, 3]
  apBssid := [16, 32, 48, 64, 80, 96]
  nonce := List.replicate 32 0
  stack := fun _ => 0

/-- The padding looks like an element of the type of a key, and the type of a key is compared
with what is behind the padding. -/
theorem padding_read_past : ¬∀ (crypto : Crypto) (device : Device) (message : Message) (len : Nat),
    KeyDataParsed crypto device message len := by
  intro all
  have inside := (all unwrapsOne halfway usualHandshake3 155).inside (by decide)
  have size : (unwrapped unwrapsOne halfway usualHandshake3).length = 48 := by decide
  rw [size] at inside
  exact absurd (inside 48 (by decide +kernel)) (by decide)

end Dswifi.Twl
