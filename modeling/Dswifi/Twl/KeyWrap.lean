import Mathlib.Logic.Equiv.Fin.Basic
import Dswifi.Runs
import Dswifi.Twl.KeyData

/-! The key wrapping of NIST in its mode KW (mbedtls nist_kw.twl.c), which brings the
group key. The block cipher under it is any permutation of the blocks for each key. -/

namespace Dswifi.Twl.KeyWrap

open ByteMemory Reading Runs TypedElements

abbrev Semiblock := Vector UInt8 8

/-- mbedtls_cipher_update on one block of 16 bytes, encrypting or decrypting. -/
abbrev BlockCipher := List UInt8 → Equiv.Perm (Semiblock × Semiblock)

def nistKwIcv1 : Semiblock := Vector.replicate 8 0xA6

def calcAXorT (a : Semiblock) (t : Nat) : Semiblock :=
  Vector.ofFn fun i => a[i] ^^^ UInt8.ofNat (t >>> ((7 - i.val) * 8))

/-- What the loops of the wrapping work on: A, the semiblocks behind it and the place of R. -/
structure Registers (count : Nat) where
  a : Semiblock
  r : Vector Semiblock count
  next : Fin count

section Loops
variable {count : Nat}

def advance (next : Fin count) : Fin count :=
  if inside : next.val + 1 < count then ⟨next.val + 1, inside⟩ else ⟨0, next.pos⟩

def back (next : Fin count) : Fin count :=
  if next.val = 0 then ⟨count - 1, Nat.sub_one_lt_of_lt next.isLt⟩ else ⟨next.val - 1, by omega⟩

/-- One pass of the loop of mbedtls_nist_kw_wrap. -/
def wrapStep (encrypt : Semiblock × Semiblock → Semiblock × Semiblock) (state : Registers count) (t : Nat) :
    Registers count :=
  let outbuff := encrypt (state.a, state.r[state.next])
  { a := calcAXorT outbuff.1 t, r := state.r.set state.next outbuff.2, next := advance state.next }

/-- One pass of the loop of unwrap. -/
def unwrapStep (decrypt : Semiblock × Semiblock → Semiblock × Semiblock) (state : Registers count) (t : Nat) :
    Registers count :=
  let outbuff := decrypt (calcAXorT state.a t, state.r[state.next])
  { a := outbuff.1, r := state.r.set state.next outbuff.2, next := back state.next }

def passes (count : Nat) : List Nat := List.range' 1 (6 * count)

theorem calcAXorT_twice (a : Semiblock) (t : Nat) : calcAXorT (calcAXorT a t) t = a := by
  ext i inside
  simp only [calcAXorT, Vector.getElem_ofFn, Fin.getElem_fin]
  rw [UInt8.xor_assoc, UInt8.xor_self, UInt8.xor_zero]

theorem back_advance (next : Fin count) : back (advance next) = next := by
  apply Fin.ext
  by_cases inside : next.val + 1 < count
  · simp [advance, back, inside]
  · have last := next.isLt
    simp only [advance, back, inside, dite_false, if_true]
    omega

theorem advance_back (next : Fin count) : advance (back next) = next := by
  apply Fin.ext
  by_cases first : next.val = 0
  · have none : ¬ count - 1 + 1 < count := by omega
    simp [advance, back, first, none]
  · have above : next.val - 1 + 1 = next.val := by omega
    simp [advance, back, first, above]

variable (cipher : Equiv.Perm (Semiblock × Semiblock))

/-- The registers as the other loop meets them, which is one place off. -/
def Registers.backed (state : Registers count) : Registers count := { state with next := back state.next }

def Registers.advanced (state : Registers count) : Registers count :=
  { state with next := advance state.next }

theorem unwrapStep_wrapStep (state : Registers count) (t : Nat) :
    unwrapStep cipher.symm (wrapStep cipher state t).backed t = state.backed := by
  simp [unwrapStep, wrapStep, Registers.backed, back_advance, calcAXorT_twice]

theorem wrapStep_unwrapStep (state : Registers count) (t : Nat) :
    wrapStep cipher (unwrapStep cipher.symm state t).advanced t = state.advanced := by
  simp [unwrapStep, wrapStep, Registers.advanced, advance_back, calcAXorT_twice]

/-- Where R is after so many passes. -/
theorem wrapped_next (state : Registers count) (times : List Nat) :
    (run (wrapStep cipher) state times).next.val = (state.next.val + times.length) % count := by
  induction times generalizing state with
  | nil => exact (Nat.mod_eq_of_lt state.next.isLt).symm
  | cons t rest ih =>
      have moved : (advance state.next).val = (state.next.val + 1) % count := by
        by_cases inside : state.next.val + 1 < count
        · simp [advance, inside, Nat.mod_eq_of_lt]
        · have last : state.next.val + 1 = count := by omega
          simp [advance, last]
      rw [run_cons, ih, List.length_cons]
      simp only [wrapStep, moved, Nat.mod_add_mod]
      rw [Nat.add_assoc, Nat.add_comm 1]

/-- All passes over the semiblocks of one text. -/
def wrapPasses (first : Fin count) (a : Semiblock) (r : Vector Semiblock count) : Semiblock × Vector Semiblock count :=
  let state := run (wrapStep cipher) ⟨a, r, first⟩ (passes count)
  (state.a, state.r)

def unwrapPasses (first : Fin count) (a : Semiblock) (r : Vector Semiblock count) :
    Semiblock × Vector Semiblock count :=
  let state := run (unwrapStep cipher.symm) ⟨a, r, back first⟩ (passes count).reverse
  (state.a, state.r)

variable {first : Fin count}

theorem unwrapPasses_wrapPasses (a : Semiblock) (r : Vector Semiblock count) :
    unwrapPasses cipher first (wrapPasses cipher first a r).1 (wrapPasses cipher first a r).2 = (a, r) := by
  -- the passes are undone from the last on, each one place further back
  have undone := run_undone Registers.backed (unwrapStep_wrapStep cipher) ⟨a, r, first⟩ (passes count)
  -- six rounds over the semiblocks end where they began
  have home : (run (wrapStep cipher) ⟨a, r, first⟩ (passes count)).next = first := by
    apply Fin.ext
    rw [wrapped_next]
    simp [passes, Nat.mod_eq_of_lt]
  simp only [Registers.backed, home] at undone
  simp only [unwrapPasses, wrapPasses, undone]

theorem wrapPasses_unwrapPasses (a : Semiblock) (r : Vector Semiblock count) :
    wrapPasses cipher first (unwrapPasses cipher first a r).1 (unwrapPasses cipher first a r).2 = (a, r) := by
  have undone := run_undone Registers.advanced (wrapStep_unwrapStep cipher) ⟨a, r, back first⟩
    (passes count).reverse
  rw [List.reverse_reverse] at undone
  have home : (run (unwrapStep cipher.symm) ⟨a, r, back first⟩ (passes count).reverse).advanced.next = first := by
    have place := wrapped_next cipher
      (run (unwrapStep cipher.symm) ⟨a, r, back first⟩ (passes count).reverse).advanced (passes count)
    rw [undone] at place
    apply Fin.ext
    simpa [Registers.advanced, advance_back, passes, Nat.mod_eq_of_lt] using place.symm
  simp only [Registers.advanced, advance_back] at undone home
  rw [home] at undone
  simp only [unwrapPasses, wrapPasses, undone]

end Loops

/-! The texts, which are the semiblocks one behind the other. -/

def semiblock (text : List UInt8) (pos : Nat) : Semiblock := Vector.ofFn fun j => text.getD (pos + j.val) 0

def semiblocks (text : List UInt8) (count : Nat) : Vector Semiblock count :=
  Vector.ofFn fun i => semiblock text (8 * i.val)

def textOf {count : Nat} (r : Vector Semiblock count) : List UInt8 :=
  List.ofFn fun k : Fin (count * 8) => r[k.divNat][k.modNat]

@[simp] theorem textOf_length {count : Nat} (r : Vector Semiblock count) : (textOf r).length = count * 8 := by
  simp [textOf]

theorem textOf_semiblocks {count : Nat} (text : List UInt8) (size : text.length = count * 8) :
    textOf (semiblocks text count) = text := by
  apply List.ext_getElem
  · rw [textOf_length, size]
  · intro k inside here
    simp [textOf, semiblocks, semiblock, Nat.div_add_mod, here]

theorem semiblocks_textOf {count : Nat} (r : Vector Semiblock count) : semiblocks (textOf r) count = r := by
  ext i inside j below
  have quotient : (8 * i + j) / 8 = i := by omega
  have remainder : j % 8 = j := Nat.mod_eq_of_lt below
  have place : 8 * i + j < count * 8 := by omega
  simp [semiblocks, semiblock, textOf, place, quotient, remainder]

section Texts
variable {count : Nat} (cipher : Equiv.Perm (Semiblock × Semiblock)) (first : Fin count)

def wrapText (text : List UInt8) : List UInt8 :=
  let done := wrapPasses cipher first nistKwIcv1 (semiblocks text count)
  done.1.toList ++ textOf done.2

def unwrapText (text : List UInt8) : Semiblock × List UInt8 :=
  let done := unwrapPasses cipher first (semiblock text 0) (semiblocks (text.drop 8) count)
  (done.1, textOf done.2)

theorem wrapText_length (text : List UInt8) : (wrapText cipher first text).length = count * 8 + 8 := by
  simp [wrapText, Nat.add_comm]

theorem unwrapText_length (text : List UInt8) : (unwrapText cipher first text).2.length = count * 8 := by
  simp [unwrapText]

theorem semiblock_toList (a : Semiblock) (rest : List UInt8) : semiblock (a.toList ++ rest) 0 = a := by
  ext j below
  have left : j < a.toList.length := by simpa using below
  simp [semiblock, List.getElem?_append_left left, below]

theorem toList_semiblock (text : List UInt8) (size : 8 ≤ text.length) :
    (semiblock text 0).toList = text.take 8 := by
  apply List.ext_getElem
  · simp [size]
  · intro j inside here
    have there : j < text.length := by simp at here; omega
    simp [semiblock, there]

theorem unwrapText_wrapText (text : List UInt8) (size : text.length = count * 8) :
    unwrapText cipher first (wrapText cipher first text) = (nistKwIcv1, text) := by
  have start := semiblock_toList (wrapPasses cipher first nistKwIcv1 (semiblocks text count)).1
    (textOf (wrapPasses cipher first nistKwIcv1 (semiblocks text count)).2)
  simp only [unwrapText, wrapText, start]
  rw [List.drop_left' (by simp), semiblocks_textOf, unwrapPasses_wrapPasses, textOf_semiblocks text size]

/-- A text that unwraps to the check value is the wrapping of what it unwraps to. -/
theorem wrapText_unwrapText (text : List UInt8) (size : text.length = count * 8 + 8)
    (check : (unwrapText cipher first text).1 = nistKwIcv1) :
    wrapText cipher first (unwrapText cipher first text).2 = text := by
  have front := toList_semiblock text (by omega)
  have rest : (text.drop 8).length = count * 8 := by simp [size]
  have behind := textOf_semiblocks (text.drop 8) rest
  simp only [unwrapText] at check
  simp only [wrapText, unwrapText]
  rw [semiblocks_textOf, ← check, wrapPasses_unwrapPasses, front, behind, List.take_append_drop]

end Texts

/-- mbedtls_nist_kw_wrap in the mode KW. -/
def nistKwWrap (cipher : Equiv.Perm (Semiblock × Semiblock)) (input : List UInt8) (output : Memory)
    (outSize : Nat) : Unwrapped :=
  if outSize < input.length + 8 then { result := -0x6100, length := 0, output }
  else if size : input.length < 16 ∨ input.length % 8 ≠ 0 then { result := -0x6100, length := 0, output }
  else
    let text := wrapText cipher (⟨0, by omega⟩ : Fin (input.length / 8)) input
    { result := 0, length := (input.length / 8 + 1) * 8, output := writeBytes output 0 text }

/-- mbedtls_nist_kw_unwrap in the mode KW. -/
def nistKwUnwrap (cipher : Equiv.Perm (Semiblock × Semiblock)) (input : List UInt8) (output : Memory)
    (outSize : Nat) : Unwrapped :=
  -- the subtraction of the code wraps around
  if outSize < (if input.length < 8 then input.length + 4294967296 - 8 else input.length - 8) then
    { result := -0x6100, length := 0, output }
  else if size : input.length < 24 ∨ input.length % 8 ≠ 0 then { result := -0x6100, length := 0, output }
  else
    let done := unwrapText cipher (⟨0, by omega⟩ : Fin (input.length / 8 - 1)) input
    if done.1 = nistKwIcv1 then
      { result := 0, length := (input.length / 8 - 1) * 8, output := writeBytes output 0 done.2 }
    else
      { result := -0x6300, length := 0,
        output := writeBytes output 0 (List.replicate ((input.length / 8 - 1) * 8) 0) }

/-- The text is what the wrapping of `plain` leaves in a buffer of its size. -/
def Wraps (cipher : Equiv.Perm (Semiblock × Semiblock)) (plain text : List UInt8) : Prop :=
  let wrapped := nistKwWrap cipher plain (fun _ => 0) text.length
  wrapped.result = 0 ∧ readBytes wrapped.output 0 wrapped.length = text

section Exact
variable {cipher : Equiv.Perm (Semiblock × Semiblock)} {plain text : List UInt8} {output : Memory} {outSize : Nat}

theorem nistKwWrap_of_size {count : Nat} (more : 0 < count) (enough : 2 ≤ count) (size : plain.length = count * 8)
    (room : count * 8 + 8 ≤ outSize) :
    nistKwWrap cipher plain output outSize =
      { result := 0, length := count * 8 + 8,
        output := writeBytes output 0 (wrapText cipher (⟨0, more⟩ : Fin count) plain) } := by
  have fits : ¬ outSize < plain.length + 8 := by omega
  have whole : ¬ (plain.length < 16 ∨ plain.length % 8 ≠ 0) := by omega
  obtain rfl : count = plain.length / 8 := by omega
  rw [nistKwWrap, if_neg fits, dif_neg whole, Nat.succ_mul]

theorem nistKwUnwrap_of_size {count : Nat} (more : 0 < count) (enough : 2 ≤ count)
    (size : text.length = count * 8 + 8) (room : count * 8 ≤ outSize) :
    nistKwUnwrap cipher text output outSize =
      if (unwrapText cipher (⟨0, more⟩ : Fin count) text).1 = nistKwIcv1 then
        { result := 0, length := count * 8,
          output := writeBytes output 0 (unwrapText cipher (⟨0, more⟩ : Fin count) text).2 }
      else
        { result := -0x6300, length := 0, output := writeBytes output 0 (List.replicate (count * 8) 0) } := by
  have long : ¬ text.length < 8 := by omega
  have fits : ¬ outSize < text.length - 8 := by omega
  have whole : ¬ (text.length < 24 ∨ text.length % 8 ≠ 0) := by omega
  obtain rfl : count = text.length / 8 - 1 := by omega
  rw [nistKwUnwrap, if_neg long, if_neg fits, dif_neg whole]

/-- A text of a length that is not taken is refused, whatever it says. -/
theorem nistKwUnwrap_refused (refused : ¬UnwrapTakes outSize text.length) :
    nistKwUnwrap cipher text output outSize = { result := -0x6100, length := 0, output } := by
  rw [UnwrapTakes] at refused
  rw [nistKwUnwrap]
  by_cases room : outSize < (if text.length < 8 then text.length + 4294967296 - 8 else text.length - 8)
  · rw [if_pos room]
  · rw [if_neg room]
    by_cases size : text.length < 24 ∨ text.length % 8 ≠ 0
    · rw [dif_pos size]
    · rw [if_neg (by omega)] at room
      omega

theorem wraps_iff : Wraps cipher plain text ↔
    ∃ count, ∃ more : 0 < count, 2 ≤ count ∧ plain.length = count * 8 ∧
      wrapText cipher (⟨0, more⟩ : Fin count) plain = text := by
  constructor
  · rintro ⟨fine, same⟩
    by_cases short : text.length < plain.length + 8
    · rw [nistKwWrap, if_pos short] at fine
      contradiction
    by_cases odd : plain.length < 16 ∨ plain.length % 8 ≠ 0
    · rw [nistKwWrap, if_neg short, dif_pos odd] at fine
      contradiction
    · have more : 0 < plain.length / 8 := by omega
      rw [nistKwWrap_of_size more (by omega) (by omega) (by omega)] at same
      have there := writeBytes_inPlace (fun _ => 0) 0 (wrapText cipher (⟨0, more⟩ : Fin _) plain)
      rw [InPlace, wrapText_length] at there
      exact ⟨plain.length / 8, more, by omega, by omega, there.symm.trans same⟩
  · rintro ⟨count, more, enough, size, rfl⟩
    have there := writeBytes_inPlace (fun _ => 0) 0 (wrapText cipher (⟨0, more⟩ : Fin count) plain)
    rw [InPlace, wrapText_length] at there
    rw [Wraps, wrapText_length, nistKwWrap_of_size more enough size le_rfl]
    exact ⟨rfl, there⟩

/-- What is wrapped is unwrapped again. -/
theorem nistKwUnwrap_wrapped (wraps : Wraps cipher plain text) (room : plain.length ≤ outSize) :
    nistKwUnwrap cipher text output outSize =
      { result := 0, length := plain.length, output := writeBytes output 0 plain } := by
  obtain ⟨count, more, enough, size, rfl⟩ := wraps_iff.mp wraps
  rw [nistKwUnwrap_of_size more enough (wrapText_length ..) (by omega), unwrapText_wrapText cipher _ plain size,
    if_pos rfl, size]

theorem nistKwUnwrap_cases : (∃ plain, plain.length ≤ outSize ∧ Wraps cipher plain text) ∨
    (nistKwUnwrap cipher text output outSize).result ≠ 0 ∧ (nistKwUnwrap cipher text output outSize).length = 0 := by
  by_cases taken : UnwrapTakes outSize text.length
  · obtain ⟨long, whole, fits⟩ := taken
    obtain ⟨count, enough, size, room⟩ : ∃ count, 2 ≤ count ∧ text.length = count * 8 + 8 ∧ count * 8 ≤ outSize :=
      ⟨text.length / 8 - 1, by omega, by omega, by omega⟩
    have more : 0 < count := by omega
    rw [nistKwUnwrap_of_size more enough size room]
    by_cases check : (unwrapText cipher (⟨0, more⟩ : Fin count) text).1 = nistKwIcv1
    · have plainSize := unwrapText_length cipher (⟨0, more⟩ : Fin count) text
      have same := wrapText_unwrapText cipher (⟨0, more⟩ : Fin count) text size check
      exact .inl ⟨_, plainSize.trans_le room, wraps_iff.mpr ⟨count, more, enough, plainSize, same⟩⟩
    · rw [if_neg check]
      exact .inr ⟨(by decide : (-0x6300 : Int) ≠ 0), rfl⟩
  · rw [nistKwUnwrap_refused taken]
    exact .inr ⟨(by decide : (-0x6100 : Int) ≠ 0), rfl⟩

end Exact

/-- A text unwraps exactly if it is the wrapping of some text that fits, and then to that
text; what does not unwrap has no length. -/
theorem kw_unwrap_exact (cipher : Equiv.Perm (Semiblock × Semiblock)) (text : List UInt8) (output : Memory)
    (outSize : Nat) :
    ((nistKwUnwrap cipher text output outSize).result = 0 ↔
      ∃ plain, plain.length ≤ outSize ∧ Wraps cipher plain text) ∧
    (∀ plain, plain.length ≤ outSize → Wraps cipher plain text →
      nistKwUnwrap cipher text output outSize =
        { result := 0, length := plain.length, output := writeBytes output 0 plain }) ∧
    ((nistKwUnwrap cipher text output outSize).result ≠ 0 →
      (nistKwUnwrap cipher text output outSize).length = 0) := by
  have unwraps : ∀ plain, plain.length ≤ outSize → Wraps cipher plain text →
      nistKwUnwrap cipher text output outSize =
        { result := 0, length := plain.length, output := writeBytes output 0 plain } :=
    fun plain room wraps => nistKwUnwrap_wrapped wraps room
  have cases := @nistKwUnwrap_cases cipher text output outSize
  constructor
  · constructor
    · intro fine
      exact cases.resolve_right fun failed => failed.1 fine
    · rintro ⟨plain, room, wraps⟩
      rw [unwraps plain room wraps]
  constructor
  · exact unwraps
  · intro failed
    rcases cases with ⟨plain, room, wraps⟩ | empty
    · rw [unwraps plain room wraps] at failed
      contradiction
    · exact empty.2

/-! The group key. -/

/-- The functions of mbedtls, as wpa_decrypt_gtk uses them. -/
def wpaCrypto (hmacSha1 : List UInt8 → List UInt8 → List UInt8) (aes : BlockCipher) : Crypto where
  hmacSha1
  nistKwUnwrap := fun kek data output => nistKwUnwrap (aes kek) data output gtkDecSize

theorem wpaCrypto_failsEmpty (hmacSha1 : List UInt8 → List UInt8 → List UInt8) (aes : BlockCipher) :
    (wpaCrypto hmacSha1 aes).FailsEmpty :=
  fun kek data output => (kw_unwrap_exact (aes kek) data output gtkDecSize).2.2

section Delivery
variable {hmacSha1 : List UInt8 → List UInt8 → List UInt8} {aes : BlockCipher} {device : Device} {message : Message}

/-- The keys after a message with keys in it. -/
theorem received_keys {crypto : Crypto} (hasKeys : message.HasKeys) {gtk : GtkKeyinfo}
    (carried : wpaDecryptGtk crypto message.stack device.devicePtk.kek message.keyData = gtk) :
    (received crypto device message).deviceGtkKeyinfo = gtk ∧
      (received crypto device message).installed = keysAfter device device.devicePtk.tkOn gtk message.rsc := by
  obtain ⟨answered, loaded, -, ptk, installed, security, group, pass⟩ :=
    @received_hasKeys crypto device message hasKeys
  rw [← ptk] at carried
  obtain ⟨sent, same⟩ := loadKeys_eq message.stack message.keyData message.rsc _ carried
  rw [loaded, same]
  constructor
  · rfl
  · simp only [keysAfter, groupKey, cipherKey, installed, ptk, security, group, pass]

/-- The group keys of a text, copied one over the other over all zeros. -/
def deliveredGtk (text : Option (List UInt8)) : GtkKeyinfo :=
  copies (List.replicate gtkKeyinfoSize 0) (gtkBodies (text.getD []))

/-- The access point's text, if the key data is the wrapping of one that fits the buffer. -/
def Carries (aes : BlockCipher) (device : Device) (message : Message) : Option (List UInt8) → Prop
  | some text => text.length ≤ gtkDecSize ∧ Wraps (aes device.devicePtk.kek) text message.keyData
  | none => ∀ text, text.length ≤ gtkDecSize → ¬ Wraps (aes device.devicePtk.kek) text message.keyData

/-- The last group key is at the start of the record. -/
theorem deliveredGtk_last (text : Option (List UInt8)) :
    ∀ last ∈ (gtkBodies (text.getD [])).getLast?, last <+: deliveredGtk text := by
  intro last isLast
  obtain ⟨front, split⟩ := List.getLast?_eq_some_iff.mp isLast
  rw [deliveredGtk, split, copies_concat]
  exact List.prefix_append ..

/-- The group keys of the wrapped text are what is stored and installed, and key data that
is no wrapping under the current key stores and installs one of all zeros. -/
theorem gtk_delivered (hmacSha1 : List UInt8 → List UInt8 → List UInt8) (aes : BlockCipher) (device : Device)
    (message : Message) (text : Option (List UInt8)) (hasKeys : message.HasKeys)
    (carries : Carries aes device message text)
    (padding : ∀ plain ∈ text, RestIsNoKey (writeBytes message.stack 0 plain) plain) :
    (received (wpaCrypto hmacSha1 aes) device message).deviceGtkKeyinfo = deliveredGtk text ∧
      (received (wpaCrypto hmacSha1 aes) device message).installed =
        keysAfter device device.devicePtk.tkOn (deliveredGtk text) message.rsc ∧
      (∀ last ∈ (gtkBodies (text.getD [])).getLast?, last <+: deliveredGtk text) := by
  rw [← and_assoc]
  refine ⟨received_keys hasKeys ?_, deliveredGtk_last text⟩
  -- with a text the walk is over its bytes, without one there are none
  cases text with
  | none =>
      apply wpaDecryptGtk_failed (wpaCrypto_failsEmpty hmacSha1 aes)
      intro fine
      obtain ⟨text, room, wraps⟩ := (kw_unwrap_exact (aes device.devicePtk.kek) message.keyData message.stack
        gtkDecSize).1.mp fine
      exact carries text room wraps
  | some text =>
      obtain ⟨room, wraps⟩ := carries
      have plain : unwrapped (wpaCrypto hmacSha1 aes) device message =
          { result := 0, length := text.length, output := writeBytes message.stack 0 text } :=
        (kw_unwrap_exact (aes device.devicePtk.kek) message.keyData message.stack gtkDecSize).2.1 text room wraps
      have same : decrypted (wpaCrypto hmacSha1 aes) device message = text := by
        rw [decrypted, plain]
        exact writeBytes_inPlace message.stack 0 text
      have rest : RestIsNoKey (unwrapped (wpaCrypto hmacSha1 aes) device message).output
          (decrypted (wpaCrypto hmacSha1 aes) device message) := by
        rw [same, plain]
        exact padding text rfl
      have walk := value_gtkWalk rest
      rw [same] at walk
      exact walk

/-- A cipher for a key: one half takes the key and the halves change places. -/
def halfSwap (kek : List UInt8) : Equiv.Perm (Semiblock × Semiblock) where
  toFun block := (block.2, Vector.ofFn fun i => block.1[i] ^^^ kek.getD i.val 0)
  invFun block := (Vector.ofFn fun i => block.2[i] ^^^ kek.getD i.val 0, block.1)
  left_inv block := by
    refine Prod.ext ?_ rfl
    ext i inside
    simp only [Vector.getElem_ofFn, Fin.getElem_fin]
    rw [UInt8.xor_assoc, UInt8.xor_self, UInt8.xor_zero]
  right_inv block := by
    refine Prod.ext rfl ?_
    ext i inside
    simp only [Vector.getElem_ofFn, Fin.getElem_fin]
    rw [UInt8.xor_assoc, UInt8.xor_self, UInt8.xor_zero]

/-- A sum over the key and the text for each of the 20 bytes. -/
def sumHmac (key text : List UInt8) : List UInt8 :=
  (List.range 20).map fun i => (key ++ text).foldl (fun sum next => sum * 33 + next) (UInt8.ofNat i)

/-- A handshake 3/4 with the elements of `rsnAndGtk` and their padding. -/
def paddedHandshake3 : Message where
  packet := writeBytes (fun pos => ([2, 3, 0, 151, 2, 0x13, 0xCA] ++ List.replicate 91 0 ++ [56] : List UInt8).getD pos 0)
    bodyPos (wrapText (halfSwap halfway.devicePtk.kek) (0 : Fin 6) rsnAndGtk)
  devBssid := [0, 9, 191, 1, 2, 3]
  apBssid := [16, 32, 48, 64, 80, 96]
  nonce := List.replicate 32 0
  stack := fun pos => UInt8.ofNat (pos * 7)

theorem paddedHandshake3_carries : Carries halfSwap halfway paddedHandshake3 (some rsnAndGtk) := by
  have size : ((getBe16 keyDataLenPos).value paddedHandshake3.packet).toNat = 56 := by decide
  have text : paddedHandshake3.keyData = wrapText (halfSwap halfway.devicePtk.kek) (0 : Fin 6) rsnAndGtk := by
    have there := writeBytes_inPlace (fun pos =>
      ([2, 3, 0, 151, 2, 0x13, 0xCA] ++ List.replicate 91 0 ++ [56] : List UInt8).getD pos 0) bodyPos
      (wrapText (halfSwap halfway.devicePtk.kek) (0 : Fin 6) rsnAndGtk)
    rw [InPlace, wrapText_length] at there
    rw [Message.keyData, size]
    exact there
  constructor
  · decide
  · exact wraps_iff.mpr ⟨6, by decide, by decide, by decide, text.symm⟩

theorem gtk_delivered_padded :
    (received (wpaCrypto sumHmac halfSwap) halfway paddedHandshake3).deviceGtkKeyinfo =
      deliveredGtk (some rsnAndGtk) ∧
    ((received (wpaCrypto sumHmac halfSwap) halfway paddedHandshake3).installed 1 1).map CipherKey.key =
      some (List.replicate 16 9 ++ List.replicate 16 0) := by
  have delivered := gtk_delivered sumHmac halfSwap halfway paddedHandshake3 (some rsnAndGtk) (by decide)
    paddedHandshake3_carries fun plain same => by
      obtain rfl := Option.some.inj same
      decide +kernel
  rw [delivered.2.1]
  exact ⟨delivered.1, by decide⟩

end Delivery

end Dswifi.Twl.KeyWrap
