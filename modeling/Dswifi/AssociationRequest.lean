import Dswifi.AssociationResponse
import Dswifi.TypedElements
import Dswifi.MpHost

/-! How a multiplayer host answers an association request
(Wifi_MPHost_ProcessAssocRequest of arm7/ntr/ieee_802_11/association.c). The first rate
of an element is taken for the number of the rates, and the rates for those behind it. -/

namespace Dswifi.MpHost

open Association (copied copied_inPlace hdrMgtDa rateSpeedMask readAssocResponse statusSuccess transferRate2Mbps)
open BeaconFrame (half fieIdSupportedRates rate1Mbps rate2Mbps rateMandatory hdrMgtSa hdrMgtMacSize capsEss
  capsPrivacy capsShortPreamble nintendoTag macBytes le16)
open Beacon (fieIdVendor)
open ByteMemory Reading TypedElements

def statusUnsupportedCapabilities : UInt16 := 10
def statusAssocDenied : UInt16 := 12
def statusAssocBadRates : UInt16 := 18
def typeAssocResponse : UInt16 := 0x10

/-- The arguments of Wifi_MPHost_SendAssocResponsePacket. -/
structure AssocResponse where
  clientMac : Mac
  statusCode : UInt16
  associationId : UInt16
  deriving DecidableEq, Repr

/-- The frame that it sends, from the IEEE header on, without the FCS. -/
def AssocResponse.frame (response : AssocResponse) (macAddr : Mac) (wep : Bool) : List UInt8 :=
  le16 typeAssocResponse ++ le16 0 ++ macBytes response.clientMac ++ macBytes macAddr ++ macBytes macAddr ++
    le16 0 ++
    le16 (if wep then capsEss ||| capsPrivacy ||| capsShortPreamble else capsEss ||| capsShortPreamble) ++
    le16 response.statusCode ++ le16 response.associationId ++
    [fieIdSupportedRates, 2, rate1Mbps ||| rateMandatory, rate2Mbps] ++ [0, 0]

/-- 1 or 2 Mbit/s. -/
def isSlow (rate : UInt8) : Bool :=
  rate &&& rateSpeedMask = rate1Mbps ∨ rate &&& rateSpeedMask = rate2Mbps

def isNintendoTag (seglen i : Nat) : Reading Bool :=
  if seglen ≥ 4 then startsWith nintendoTag i else pure false

/-- Whether an element makes the host refuse the rates. The vendor element is only
looked at for the log. -/
def refusesElement (type : UInt8) (seglen i : Nat) : Reading Bool :=
  if type = fieIdSupportedRates then do
    let numRates ← byte i
    let ok ← anyByte isSlow numRates.toNat (i + 1)
    pure !ok
  else if type = fieIdVendor then do
    let _ ← isNintendoTag seglen i
    pure false
  else pure false

/-- The loop over the elements. -/
def refusesRates (datalen : Nat) : Nat → Nat → Reading Bool
  | 0, _ => pure false
  | fuel + 1, i =>
    if i + 2 ≤ datalen then do
      let type ← byte i
      let seglen ← byte (i + 1)
      if i + 2 + seglen.toNat > datalen then pure false
      else
        if ← refusesElement type seglen.toNat (i + 2) then pure true
        else refusesRates datalen fuel (i + 2 + seglen.toNat)
    else pure false

def macAt (pos : Nat) : Reading Mac := do
  let first ← half pos
  let second ← half (pos + 2)
  let third ← half (pos + 4)
  pure (first, second, third)

def requiredCapabilities : UInt16 := capsEss ||| capsShortPreamble

/-- The end of the function, when the elements have been looked at. -/
def answerRequest (shared : Shared) (clientMac : Mac) (refused : Bool) : Shared × Option AssocResponse :=
  if refused then (shared, some ⟨clientMac, statusAssocBadRates, 0⟩)
  else
    match clientAssociate shared clientMac with
    | (shared, none) => (shared, some ⟨clientMac, statusAssocDenied, 0⟩)
    | (shared, some aid) => (shared, some ⟨clientMac, statusSuccess, UInt16.ofNat aid⟩)

/-- Wifi_MPHost_ProcessAssocRequest. There are fewer elements than bytes. -/
def processAssocRequest (macAddr : Mac) (shared : Shared) (byteLength : Nat) :
    Reading (Shared × Option AssocResponse) := do
  let datalen := min byteLength 256
  let da ← bytes hdrMgtDa 6
  if da ≠ macBytes macAddr then pure (shared, none)
  else
    let clientMac ← macAt hdrMgtSa
    if (clientGetByMacAddr shared clientMac).isNone then
      pure (shared, some ⟨clientMac, statusAssocDenied, 0⟩)
    else
      let capabilityInformation ← half hdrMgtMacSize
      if capabilityInformation &&& 0x00FF ≠ requiredCapabilities then
        pure (shared, some ⟨clientMac, statusUnsupportedCapabilities, 0⟩)
      else
        let refused ← refusesRates datalen datalen (hdrMgtMacSize + 4)
        pure (answerRequest shared clientMac refused)

/-- A request to this host, of a client that has authenticated, with the capabilities. -/
structure FromClient (macAddr : Mac) (shared : Shared) (data : Memory) : Prop where
  addressed : readBytes data hdrMgtDa 6 = macBytes macAddr
  authenticated : (clientGetByMacAddr shared ((macAt hdrMgtSa).value data)).isSome = true
  capable : (half hdrMgtMacSize).value data &&& 0x00FF = requiredCapabilities

/-! The elements of a request. -/

def ratesOf (found : List Element) : List (List UInt8) :=
  (found.filter fun element => element.1 = fieIdSupportedRates).map Prod.snd

/-- The contents of the complete elements of rates. -/
def rateLists (text : List UInt8) : List (List UInt8) := ratesOf (elements text)

/-- The elements behind the listen interval. -/
def requestText (frame : List UInt8) : List UInt8 := frame.drop (hdrMgtMacSize + 4)

/-- The request has an element of rates without 1 and 2 Mbit/s. -/
def HasBadRates (frame : List UInt8) : Prop :=
  ∃ rates ∈ rateLists (requestText frame), rates.any isSlow = false

/-- What the loop takes for the rates: those behind the first, as many as it says. -/
def takenRates (rates : List UInt8) : List UInt8 := (rates.drop 1).take (rates.headD 0).toNat

/-- The rates that it takes are in the element, up to the first of 1 or 2 Mbit/s. -/
def TakenInside (rates : List UInt8) : Prop :=
  rates ≠ [] ∧ ((takenRates rates).any isSlow = false → (rates.headD 0).toNat < rates.length)

/-- So it is for all elements up to the first that is refused. -/
def LooksInside : List (List UInt8) → Prop
  | [] => True
  | rates :: rest => TakenInside rates ∧ ((takenRates rates).any isSlow = true → LooksInside rest)

/-- Where the elements are that the loop gets to. -/
def reached (data : Memory) (datalen : Nat) : Nat → Nat → List Nat
  | 0, _ => []
  | fuel + 1, i =>
    if i + 2 ≤ datalen ∧ i + 2 + (data (i + 1)).toNat ≤ datalen then
      i :: if (refusesElement (data i) (data (i + 1)).toNat (i + 2)).value data then []
        else reached data datalen fuel (i + 2 + (data (i + 1)).toNat)
    else []

/-- For the rates only bytes of the element are looked at. -/
def RatesInElements (data : Memory) (datalen : Nat) : Prop :=
  ∀ i ∈ reached data datalen datalen (hdrMgtMacSize + 4), data i = fieIdSupportedRates →
    Within (i + 2 + (data (i + 1)).toNat) (refusesElement (data i) (data (i + 1)).toNat (i + 2)) data

/-- The rates that the loop takes tell the same as those of the frame. -/
structure RatesTold (frame : List UInt8) : Prop where
  fixed : hdrMgtMacSize + 2 ≤ frame.length
  inside : LooksInside (rateLists (requestText (frame.take 256)))
  refused : (∃ rates ∈ rateLists (requestText (frame.take 256)), (takenRates rates).any isSlow = false) →
    HasBadRates frame
  behind : (∀ rates ∈ rateLists (requestText (frame.take 256)), (takenRates rates).any isSlow = true) →
    ∀ rates ∈ (rateLists (requestText frame)).drop (rateLists (requestText (frame.take 256))).length,
      rates.any isSlow = true

variable {data : Memory}

/-! What the loop does. -/

theorem refusesElement_rates {i : Nat} {rates : List UInt8} (there : InPlace data i rates) :
    (Within (i + rates.length) (refusesElement fieIdSupportedRates rates.length i) data ↔ TakenInside rates) ∧
    (TakenInside rates →
      (refusesElement fieIdSupportedRates rates.length i).value data = !(takenRates rates).any isSlow) := by
  rw [refusesElement, if_pos rfl, within_bind, within_byte, value_bind, within_bind, value_bind, value_byte]
  cases rates with
  | nil => simp [TakenInside]
  | cons first rest =>
      have here : data i = first := there.byte (Nat.succ_pos _)
      have behind : InPlace data (i + 1) rest := there.drop (Nat.succ_pos _)
      obtain ⟨within, value⟩ := anyByte_inPlace isSlow first.toNat behind
      have ends : i + 1 + rest.length = i + (rest.length + 1) := by omega
      rw [ends] at within
      rw [here, TakenInside, takenRates, List.length_cons]
      simp only [List.drop_succ_cons, List.drop_zero, List.headD_cons, Nat.lt_succ_iff, value_pure, within_pure, and_true]
      rw [within]
      simp only [ne_eq, reduceCtorEq, not_false_eq_true, true_and]
      exact ⟨and_iff_right (by omega), fun inside => by rw [value inside]⟩

theorem refusesElement_other {type : UInt8} (other : type ≠ fieIdSupportedRates) (i seglen : Nat) :
    Within (i + seglen) (refusesElement type seglen i) data ∧
      (refusesElement type seglen i).value data = false := by
  rw [refusesElement, if_neg other]
  split
  · have tag : Within (i + seglen) (isNintendoTag seglen i) data := by
      rw [isNintendoTag, within_guard, within_startsWith]
      intro long k below _
      have four : nintendoTag.length = 4 := rfl
      omega
    exact ⟨(within_bind _ _).mpr ⟨tag, within_pure _⟩, rfl⟩
  · exact ⟨within_pure _, rfl⟩

section Element
variable {type length : UInt8} {contents rest : List UInt8} {datalen fuel i : Nat}

/-- One element of the loop. -/
theorem refusesRates_element (there : InPlace data i (type :: length :: (contents ++ rest)))
    (exact : contents.length = length.toNat) (fits : i + 2 + contents.length ≤ datalen) :
    (Within datalen (refusesRates datalen (fuel + 1) i) data ↔
      Within datalen (refusesElement type contents.length (i + 2)) data ∧
        ((refusesElement type contents.length (i + 2)).value data = false →
          Within datalen (refusesRates datalen fuel (i + 2 + contents.length)) data)) ∧
    (refusesRates datalen (fuel + 1) i).value data =
      ((refusesElement type contents.length (i + 2)).value data ||
        (refusesRates datalen fuel (i + 2 + contents.length)).value data) := by
  obtain ⟨first, second, -, -⟩ := element_inPlace there
  have places : i < datalen ∧ i + 1 < datalen := by omega
  rw [refusesRates, if_pos (by omega)]
  simp only [within_bind, within_byte, value_bind, value_byte, first, second, ← exact, places, true_and]
  rw [if_neg (Nat.not_lt.mpr fits), within_bind, value_bind]
  cases (refusesElement type contents.length (i + 2)).value data with
  | false => exact ⟨by simp, rfl⟩
  | true => exact ⟨by simp, rfl⟩

theorem reached_element (there : InPlace data i (type :: length :: (contents ++ rest)))
    (exact : contents.length = length.toNat) (fits : i + 2 + contents.length ≤ datalen) :
    reached data datalen (fuel + 1) i = i ::
      if (refusesElement type contents.length (i + 2)).value data then []
      else reached data datalen fuel (i + 2 + contents.length) := by
  obtain ⟨first, second, -, -⟩ := element_inPlace there
  rw [reached, first, second, ← exact, if_pos ⟨by omega, fits⟩]

end Element

/-- The loop over elements that are in place: it stays in the elements exactly when the
rates that it takes do, and then it refuses if one of these is refused. -/
theorem refusesRates_splits {text : List UInt8} {found : List Element} (splits : Splits text found)
    {datalen fuel i : Nat} (there : InPlace data i text) (size : text.length = datalen - i)
    (enough : datalen ≤ i + fuel) :
    ((∀ start ∈ reached data datalen fuel i, data start = fieIdSupportedRates →
        Within (start + 2 + (data (start + 1)).toNat)
          (refusesElement (data start) (data (start + 1)).toNat (start + 2)) data) ↔
      LooksInside (ratesOf found)) ∧
    (LooksInside (ratesOf found) → Within datalen (refusesRates datalen fuel i) data ∧
      (refusesRates datalen fuel i).value data = (ratesOf found).any fun rates => !(takenRates rates).any isSlow) := by
  induction splits generalizing fuel i with
  | short small =>
      have past : ¬i + 2 ≤ datalen := by omega
      cases fuel with
      | zero => simp [reached, refusesRates, ratesOf, LooksInside]
      | succ fuel => simp [reached, refusesRates, past, ratesOf, LooksInside]
  | @cut type length rest past =>
      obtain ⟨-, second, -⟩ := header_inPlace there
      simp only [List.length_cons] at size
      have goes : i + 2 ≤ datalen := by omega
      have stops : ¬i + 2 + length.toNat ≤ datalen := by omega
      cases fuel with
      | zero => omega
      | succ fuel =>
          rw [reached, refusesRates, second, if_pos goes, if_neg (fun both => stops both.2)]
          simp only [within_bind, within_byte, value_bind, value_byte, second]
          rw [if_pos (Nat.lt_of_not_le stops)]
          refine ⟨by simp [ratesOf, LooksInside], fun _ => ⟨⟨by omega, by omega, within_pure _⟩, rfl⟩⟩
  | @element type length contents rest found exact more ih =>
      obtain ⟨first, second, here, behind⟩ := element_inPlace there
      simp only [List.length_cons, List.length_append] at size
      have fits : i + 2 + contents.length ≤ datalen := by omega
      cases fuel with
      | zero => omega
      | succ fuel =>
          obtain ⟨inside, value⟩ := @ih fuel (i + 2 + contents.length) behind (by omega) (by omega)
          obtain ⟨reads, result⟩ := @refusesRates_element data type length contents rest datalen fuel i there exact fits
          rw [reached_element there exact fits, reads, result, List.forall_mem_cons, first, second, ← exact]
          by_cases rates : type = fieIdSupportedRates
          · obtain ⟨within, told⟩ := refusesElement_rates here
            have lists : ratesOf ((type, contents) :: found) = contents :: ratesOf found := by
              simp [ratesOf, rates]
            rw [lists, LooksInside, List.any_cons, rates]
            simp only [true_imp_iff, within]
            constructor
            · refine and_congr_right fun taken => ?_
              rw [told taken]
              cases (takenRates contents).any isSlow with
              | false => simp
              | true => simpa using inside
            · rintro ⟨taken, later⟩
              rw [told taken]
              refine ⟨⟨(within.mpr taken).mono fits, fun accepted => ?_⟩, ?_⟩
              · exact (value (later (by simpa using accepted))).1
              · cases accepted : (takenRates contents).any isSlow with
                | false => rfl
                | true => rw [(value (later accepted)).2]
          · obtain ⟨within, told⟩ := @refusesElement_other data type rates (i + 2) contents.length
            have lists : ratesOf ((type, contents) :: found) = ratesOf found := by
              simp [ratesOf, rates]
            rw [told, lists]
            simp only [rates, false_imp_iff, true_and]
            refine ⟨inside, fun looks => ?_⟩
            obtain ⟨later, same⟩ := value looks
            exact ⟨⟨within.mono fits, fun _ => later⟩, same⟩

section Request
variable {macAddr : Mac} {shared : Shared}

/-- The host says that it does not like the rates. -/
def BadRates (answer : Shared × Option AssocResponse) : Prop :=
  answer.2.map AssocResponse.statusCode = some statusAssocBadRates

theorem answerRequest_badRates (clientMac : Mac) (refused : Bool) :
    BadRates (answerRequest shared clientMac refused) ↔ refused = true := by
  rw [answerRequest]
  cases refused with
  | true => simp [BadRates]
  | false =>
      rw [if_neg (by decide)]
      split <;> simp [BadRates, statusAssocDenied, statusAssocBadRates, statusSuccess]

/-- A client is answered by what the loop says of its rates. -/
theorem processAssocRequest_client {byteLength limit : Nat} (client : FromClient macAddr shared data) :
    (BadRates ((processAssocRequest macAddr shared byteLength).value data) ↔
      (refusesRates (min byteLength 256) (min byteLength 256) (hdrMgtMacSize + 4)).value data = true) ∧
    (Within limit (processAssocRequest macAddr shared byteLength) data ↔
      hdrMgtMacSize + 2 ≤ limit ∧
        Within limit (refusesRates (min byteLength 256) (min byteLength 256) (hdrMgtMacSize + 4)) data) := by
  have ours : ¬(bytes hdrMgtDa 6).value data ≠ macBytes macAddr := not_not.mpr client.addressed
  have known : ¬(clientGetByMacAddr shared ((macAt hdrMgtSa).value data)).isNone = true := by
    simp [Option.isSome_iff_ne_none.mp client.authenticated]
  have able : ¬(half hdrMgtMacSize).value data &&& 0x00FF ≠ requiredCapabilities := not_not.mpr client.capable
  constructor
  · rw [processAssocRequest, value_bind, if_neg ours, value_bind, if_neg known, value_bind, if_neg able,
      value_bind, value_pure]
    exact answerRequest_badRates _ _
  · rw [processAssocRequest, within_bind, if_neg ours, within_bind, if_neg known, within_bind, if_neg able,
      within_bind, macAt]
    simp only [within_bind, within_bytes, BeaconFrame.within_half, within_pure, and_true]
    rw [← and_assoc, ← and_assoc]
    refine and_congr_left fun _ => ?_
    have size : hdrMgtMacSize = 24 := rfl
    have da : hdrMgtDa = 4 := rfl
    have sa : hdrMgtSa = 10 := rfl
    omega

theorem ratesOf_append (first second : List Element) :
    ratesOf (first ++ second) = ratesOf first ++ ratesOf second := by
  simp [ratesOf]

/-- The rates of the first bytes of a frame are the first rates of the frame. -/
theorem rateLists_take (frame : List UInt8) (size : Nat) :
    rateLists (requestText frame) = rateLists (requestText (frame.take size)) ++
      (rateLists (requestText frame)).drop (rateLists (requestText (frame.take size))).length := by
  obtain ⟨behind, split⟩ := (elements_splits (requestText frame)).take (size - (hdrMgtMacSize + 4))
  have front : requestText (frame.take size) = (requestText frame).take (size - (hdrMgtMacSize + 4)) :=
    List.drop_take
  have all : rateLists (requestText frame) =
      rateLists (requestText (frame.take size)) ++ ratesOf behind := by
    rw [rateLists, split, ratesOf_append, front]
    rfl
  rw [all, List.drop_left]

theorem any_of_taken {rates : List UInt8} (taken : (takenRates rates).any isSlow = true) :
    rates.any isSlow = true := by
  obtain ⟨rate, member, slow⟩ := List.any_eq_true.mp taken
  exact List.any_eq_true.mpr ⟨rate, List.mem_of_mem_drop (List.mem_of_mem_take member), slow⟩

/-- A client is told that its rates are bad when they are, and the host looks at bytes
of the frame only and for the rates at bytes of their element, exactly when the rates
that it takes tell the same as those of the frame. -/
theorem bad_rates_told_iff {frame : List UInt8} {stack : Memory}
    (client : FromClient macAddr shared (copied 256 frame stack)) :
    (BadRates ((processAssocRequest macAddr shared frame.length).value (copied 256 frame stack)) ↔
        HasBadRates frame) ∧
      Within (min frame.length 256) (processAssocRequest macAddr shared frame.length) (copied 256 frame stack) ∧
      RatesInElements (copied 256 frame stack) (min frame.length 256) ↔
    RatesTold frame := by
  obtain ⟨answer, within⟩ := @processAssocRequest_client _ _ _ frame.length (min frame.length 256) client
  have size : (requestText (frame.take 256)).length = min frame.length 256 - (hdrMgtMacSize + 4) := by
    rw [requestText, List.length_drop, List.length_take, Nat.min_comm]
  obtain ⟨looks, loop⟩ := refusesRates_splits (elements_splits (requestText (frame.take 256)))
    (copied_inPlace 256 frame stack (hdrMgtMacSize + 4)) size (Nat.le_add_left (min frame.length 256) _)
  have all := rateLists_take frame 256
  have start : hdrMgtMacSize + 2 ≤ min frame.length 256 ↔ hdrMgtMacSize + 2 ≤ frame.length := by
    have header : hdrMgtMacSize = 24 := rfl
    omega
  rw [answer, within, start, RatesInElements, looks]
  constructor
  · rintro ⟨told, ⟨fixed, _⟩, inside⟩
    rw [(loop inside).2, List.any_eq_true] at told
    refine ⟨fixed, inside, ?_, ?_⟩
    · rintro ⟨rates, member, refused⟩
      exact told.mp ⟨rates, member, by rw [refused]; rfl⟩
    · intro taken rates member
      by_contra fast
      obtain ⟨other, here, refused⟩ := told.mpr ⟨rates, List.mem_of_mem_drop member, eq_false_of_ne_true fast⟩
      rw [taken other here] at refused
      cases refused
  · intro tells
    obtain ⟨inside, value⟩ := loop tells.inside
    refine ⟨?_, ⟨tells.fixed, inside⟩, tells.inside⟩
    rw [value, List.any_eq_true]
    constructor
    · rintro ⟨rates, member, refused⟩
      exact tells.refused ⟨rates, member, by simpa using refused⟩
    · rintro ⟨rates, member, fast⟩
      by_contra none
      have taken : ∀ rates ∈ rateLists (requestText (frame.take 256)), (takenRates rates).any isSlow = true := by
        intro rates member
        by_contra refused
        exact none ⟨rates, member, by rw [eq_false_of_ne_true refused]; rfl⟩
      have slow : rates.any isSlow = true := by
        rw [all] at member
        rcases List.mem_append.mp member with here | behind
        · exact any_of_taken (taken rates here)
        · exact tells.behind taken rates behind
      rw [slow] at fast
      cases fast

end Request

/-- A console that joins such a host reads its answer to the end, and selects 2 Mbit/s. -/
theorem host_response_read (response : AssocResponse) (success : response.statusCode = statusSuccess)
    (macAddr : Mac) (wep : Bool) (stack : Memory) :
    Within (response.frame macAddr wep).length
      (readAssocResponse (macBytes response.clientMac) (macBytes macAddr))
      (copied 64 (response.frame macAddr wep) stack) ∧
    (readAssocResponse (macBytes response.clientMac) (macBytes macAddr)).value
      (copied 64 (response.frame macAddr wep) stack) = .joined response.associationId transferRate2Mbps := by
  have length : (response.frame macAddr wep).length = 36 := by
    simp [AssocResponse.frame]
  have whole := copied_inPlace 64 (response.frame macAddr wep) stack 0
  rw [List.drop_zero, List.take_of_length_le (by omega)] at whole
  generalize copied 64 (response.frame macAddr wep) stack = data at whole ⊢
  simp only [AssocResponse.frame, inPlace_append, List.length_append, BeaconFrame.le16_length,
    BeaconFrame.macBytes_length] at whole
  obtain ⟨⟨⟨⟨⟨⟨⟨⟨⟨⟨_, _⟩, da⟩, _⟩, bssid⟩, _⟩, _⟩, status⟩, aid⟩, rates⟩, _⟩ := whole
  have joined : (half (hdrMgtMacSize + 2)).value data = statusSuccess := (BeaconFrame.half_le16 status).trans success
  have type : data (hdrMgtMacSize + 6) = fieIdSupportedRates := rates.byte (show 0 < 4 by decide)
  have count : data (hdrMgtMacSize + 7) = 2 := rates.byte (show 1 < 4 by decide)
  have second : data (hdrMgtMacSize + 8 + 1) = rate2Mbps := rates.byte (show 3 < 4 by decide)
  constructor
  · refine (Association.within_readAssocResponse da bssid).mpr ⟨?_, fun _ => ?_, fun _ _ => ⟨?_, fun i few _ => ?_⟩⟩
    · rw [length]; decide
    · rw [length]; decide
    · rw [length]; decide
    · have places : hdrMgtMacSize + 8 + i < 36 := by
        have header : hdrMgtMacSize = 24 := rfl
        have rates : (data (hdrMgtMacSize + 7)).toNat = 2 := by rw [count]; rfl
        omega
      rwa [length]
  · have rate := (Association.selects_iff da bssid).mpr ⟨joined, type, 1, by rw [count]; decide, by rw [second]; decide⟩
    rw [Association.readAssocResponse_success da bssid joined] at rate ⊢
    rw [Option.some_inj.mp rate]
    exact congrArg (Association.Answer.joined · _) (BeaconFrame.half_le16 aid)

/-- A request of the console 2 to the host 1 with these rates. -/
def requestWith (rates : List UInt8) : List UInt8 :=
  [0, 0, 0, 0] ++ List.replicate 6 1 ++ List.replicate 6 2 ++ List.replicate 6 1 ++ [0, 0] ++ [0x21, 0, 0, 0] ++
    bytesOf (fieIdSupportedRates, rates)

/-- The console 2 has authenticated. -/
def oneClient : Shared := (clientAuthenticate (accessPointStart 1 true) (0x0202, 0x0202, 0x0202)).1

/-- A list of rates that starts with 1 Mbit/s is taken for a list of two others. -/
theorem oneMbps_refused : ¬∀ (macAddr : Mac) (shared : Shared) (frame : List UInt8) (stack : Memory),
    FromClient macAddr shared (copied 256 frame stack) →
    (BadRates ((processAssocRequest macAddr shared frame.length).value (copied 256 frame stack)) ↔
        HasBadRates frame) ∧
      Within (min frame.length 256) (processAssocRequest macAddr shared frame.length) (copied 256 frame stack) ∧
      RatesInElements (copied 256 frame stack) (min frame.length 256) := by
  intro all
  obtain ⟨told, _⟩ := all (0x0101, 0x0101, 0x0101) oneClient (requestWith [0x02, 0x0B, 0x16]) (fun _ => 0)
    ⟨by decide +kernel, by decide +kernel, by decide +kernel⟩
  have answered : BadRates ((processAssocRequest (0x0101, 0x0101, 0x0101) oneClient
      (requestWith [0x02, 0x0B, 0x16]).length).value (copied 256 (requestWith [0x02, 0x0B, 0x16]) fun _ => 0)) := by
    unfold BadRates
    decide +kernel
  have lists : rateLists (requestText (requestWith [0x02, 0x0B, 0x16])) = [[0x02, 0x0B, 0x16]] := by decide
  obtain ⟨rates, member, fast⟩ := told.mp answered
  rw [lists, List.mem_singleton] at member
  subst member
  exact absurd fast (by decide)

/-- With the basic-rate bit the first rate says that there are many. -/
theorem bad_rates_told_basic : RatesTold (requestWith [0x82, 0x84]) ∧
    ¬BadRates ((processAssocRequest (0x0101, 0x0101, 0x0101) oneClient (requestWith [0x82, 0x84]).length).value
      (copied 256 (requestWith [0x82, 0x84]) fun _ => 0)) := by
  have lists : rateLists (requestText (requestWith [0x82, 0x84])) = [[0x82, 0x84]] := by decide
  have front : (requestWith [0x82, 0x84]).take 256 = requestWith [0x82, 0x84] := by decide
  have fine : ¬HasBadRates (requestWith [0x82, 0x84]) := by
    rintro ⟨rates, member, fast⟩
    rw [lists, List.mem_singleton] at member
    subst member
    exact absurd fast (by decide)
  have tells : RatesTold (requestWith [0x82, 0x84]) := by
    refine ⟨by decide, ?_, ?_, ?_⟩
    · rw [front, lists]
      exact ⟨⟨by decide, by decide⟩, fun _ => trivial⟩
    · rintro ⟨rates, member, refused⟩
      rw [front, lists, List.mem_singleton] at member
      subst member
      exact absurd refused (by decide)
    · intro _ rates member
      rw [front, lists] at member
      cases member
  have client : FromClient (0x0101, 0x0101, 0x0101) oneClient
      (copied 256 (requestWith [0x82, 0x84]) fun _ => 0) :=
    ⟨by decide +kernel, by decide +kernel, by decide +kernel⟩
  exact ⟨tells, fun told => fine (((bad_rates_told_iff client).mpr tells).1.mp told)⟩

end Dswifi.MpHost
