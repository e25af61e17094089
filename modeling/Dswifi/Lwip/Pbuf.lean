import Dswifi.ByteMemory
import Dswifi.LinkedNodes
import Mathlib.Logic.Function.Basic

/-! The packet buffers of lwIP, which are chains of pieces (arm9/lwip/netif.c, and
pbuf_alloc of lwIP). A frame to be sent is put together from its pieces, and a
received one is spread out to those of a new chain. Both loops end at the piece
that holds all that is left, whatever it points to. -/

namespace Dswifi.Lwip

open ByteMemory LinkedNodes

/-- struct pbuf, with the `len` bytes its payload points to. -/
structure Pbuf where
  next : Option Nat
  payload : List UInt8
  totLen : UInt16
  fits : payload.length < 65536

namespace Pbuf

def len (node : Pbuf) : Nat := node.payload.length

/-- memcpy to the payload. -/
def copy (node : Pbuf) (text : List UInt8) : Pbuf :=
  { node with
    payload := text.take node.len ++ node.payload.drop text.length
    fits := by
      have bound := node.fits
      rw [List.length_append, List.length_take, List.length_drop, len]
      omega }

end Pbuf

abbrev Heap := Nat → Pbuf

/-- The bytes of the pieces, one after the other. -/
def bytesOf (heap : Heap) (nodes : List Nat) : List UInt8 := nodes.flatMap fun node => (heap node).payload

/-- The pieces from `p` on are these, and each knows how many bytes there are from it on. -/
structure Chain (heap : Heap) (p : Nat) (nodes : List Nat) : Prop where
  linked : Linked (fun node => (heap node).next) (some p) nodes
  totals : ∀ node rest, node :: rest <:+ nodes → (heap node).totLen.toNat = (bytesOf heap (node :: rest)).length

inductive ErrT where
  | ok
  | mem
  deriving DecidableEq, Repr

/-- What is given to Wifi_TransmitFunctionLink, and what lwIP is told. -/
structure LinkOutput where
  sent : Option (List UInt8)
  result : ErrT
  deriving DecidableEq, Repr

def transmitted (transmit : List UInt8 → Int) (bytes : List UInt8) : LinkOutput :=
  { sent := some bytes, result := if transmit bytes ≠ 0 then .mem else .ok }

/-- The loop of dswifi_link_output. -/
def flatten (heap : Heap) : Nat → Nat → Memory → Nat → Option Memory
  | 0, _, _, _ => none
  | fuel + 1, p, buf, wrPtr =>
      let buf := writeBytes buf wrPtr (heap p).payload
      let wrPtr := wrPtr + (heap p).len
      if (heap p).totLen.toNat = (heap p).len then some buf
      else match (heap p).next with
        | none => none
        | some next => flatten heap fuel next buf wrPtr

/-- dswifi_link_output -/
def dswifiLinkOutput (malloc : Nat → Option Memory) (transmit : List UInt8 → Int) (heap : Heap)
    (fuel p : Nat) : Option LinkOutput :=
  let totalSize := (heap p).totLen.toNat
  if totalSize = 0 then some { sent := none, result := .ok }
  else if totalSize = (heap p).len then some (transmitted transmit (heap p).payload)
  else match malloc totalSize with
    | none => some { sent := none, result := .mem }
    | some buf => (flatten heap fuel p buf 0).map fun buf => transmitted transmit (readBytes buf 0 totalSize)

/-- The loop of dswifi_send_data_to_lwip, and the bytes it leaves. -/
def spread : Nat → Heap → Nat → List UInt8 → Option (Heap × List UInt8)
  | 0, _, _, _ => none
  | fuel + 1, heap, iter, src =>
      let copySize := min src.length (heap iter).len
      let heap := Function.update heap iter ((heap iter).copy (src.take copySize))
      let src := src.drop copySize
      if (heap iter).totLen.toNat = (heap iter).len then some (heap, src)
      else match (heap iter).next with
        | none => none
        | some next => spread fuel heap next src

inductive Received where
  | dropped
  | assertion
  | input (heap : Heap) (p : Nat)

/-- dswifi_send_data_to_lwip. pbuf_alloc takes the length as an u16. -/
def dswifiSendDataToLwip (pbufAlloc : Nat → Option (Heap × Nat)) (fuel : Nat) (data : List UInt8) :
    Option Received :=
  match pbufAlloc (data.length % 65536) with
  | none => some .dropped
  | some (heap, p) =>
      if (heap p).totLen.toNat < data.length then some .dropped
      else (spread fuel heap p data).map fun
        | (heap, []) => .input heap p
        | (_, _ :: _) => .assertion

/-- pbuf_alloc for PBUF_POOL: it fails, or it makes a chain of the length it is asked for. -/
def Allocates (pbufAlloc : Nat → Option (Heap × Nat)) : Prop :=
  ∀ length heap p, length < 65536 → pbufAlloc length = some (heap, p) →
    (heap p).totLen.toNat = length ∧ ∃ nodes, Chain heap p nodes

/-- The pieces that memp_malloc has left, and what is in their buffers. -/
structure Pool where
  free : List Nat
  distinct : free.Nodup
  buffers : Nat → Memory

def alignSize (size : Nat) : Nat := (size + 3) / 4 * 4

/-- PBUF_POOL_BUFSIZE_ALIGNED, for segments of 1460 bytes behind headers of 40, 20 and 14. -/
def poolBufsize : Nat := alignSize (1460 + 40 + 20 + 14)

/-- PBUF_IP: room for the Ethernet and the IP header. -/
def pbufIp : Nat := 14 + 40

/-- pbuf_init_alloced_pbuf, for `qlen` bytes of the buffer from `offset` on. -/
def initAlloced (buffer : Memory) (offset : Nat) (totLen qlen : UInt16) : Pbuf :=
  { next := none
    payload := readBytes buffer (alignSize offset) qlen.toNat
    totLen := totLen
    fits := by rw [readBytes_length]; exact qlen.toNat_lt }

def pointTo (heap : Heap) (last : Option Nat) (q : Nat) : Heap :=
  match last with
  | none => heap
  | some last => Function.update heap last { heap last with next := some q }

/-- The loop of pbuf_alloc for PBUF_POOL. What has been allocated is given back when
the pool gets empty. -/
def pbufAllocLoop (buffers : Nat → Memory) : List Nat → Heap → Option Nat → Option Nat → UInt16 → Nat →
    Option (Heap × Nat)
  | [], _, _, _, _, _ => none
  | q :: free, heap, p, last, remLen, offset =>
      let room := UInt16.ofNat (poolBufsize - alignSize offset)
      let qlen := if remLen < room then remLen else room
      let heap := Function.update heap q (initAlloced (buffers q) offset remLen qlen)
      let heap := pointTo heap last q
      let p := p.getD q
      let remLen := remLen - qlen
      if remLen > 0 then pbufAllocLoop buffers free heap (some p) (some q) remLen 0
      else some (heap, p)

/-- pbuf_alloc(PBUF_IP, length, PBUF_POOL) -/
def pbufAlloc (pool : Pool) (heap : Heap) (length : Nat) : Option (Heap × Nat) :=
  pbufAllocLoop pool.buffers pool.free heap none none (UInt16.ofNat length) pbufIp

variable {heap : Heap} {p : Nat} {nodes : List Nat}

theorem bytesOf_cons (heap : Heap) (node : Nat) (rest : List Nat) :
    bytesOf heap (node :: rest) = (heap node).payload ++ bytesOf heap rest := rfl

/-- A chain is its first piece and, behind it, nothing or a chain. -/
theorem Chain.first (chain : Chain heap p nodes) : ∃ rest, nodes = p :: rest ∧
    (heap p).totLen.toNat = (heap p).len + (bytesOf heap rest).length ∧
    ((heap p).next = none ∧ rest = [] ∨ ∃ next, (heap p).next = some next ∧ Chain heap next rest) := by
  obtain ⟨linked, totals⟩ := chain
  cases linked with
  | @cons _ rest more =>
      refine ⟨rest, rfl, ?_, ?_⟩
      · rw [totals p rest (List.suffix_refl _), bytesOf_cons, List.length_append, Pbuf.len]
      · cases next : (heap p).next with
        | none =>
            simp only [next] at more
            cases more
            exact .inl ⟨rfl, rfl⟩
        | some node =>
            simp only [next] at more
            refine .inr ⟨node, rfl, more, fun one rest' behind => ?_⟩
            exact totals one rest' (behind.trans (List.suffix_cons p rest))

theorem Chain.totLen (chain : Chain heap p nodes) : (heap p).totLen.toNat = (bytesOf heap nodes).length := by
  obtain ⟨rest, rfl, total, -⟩ := chain.first
  rw [total, bytesOf_cons, List.length_append, Pbuf.len]

/-- The piece that holds all that is left may have empty ones behind it. -/
theorem Chain.last (chain : Chain heap p nodes) (last : (heap p).totLen.toNat = (heap p).len) :
    bytesOf heap nodes = (heap p).payload := by
  obtain ⟨rest, rfl, total, -⟩ := chain.first
  have empty : (bytesOf heap rest).length = 0 := by omega
  rw [bytesOf_cons, List.length_eq_zero_iff.mp empty, List.append_nil]

/-- Behind every other piece there is one more. -/
theorem Chain.more (chain : Chain heap p nodes) (more : (heap p).totLen.toNat ≠ (heap p).len) :
    ∃ next rest, (heap p).next = some next ∧ nodes = p :: rest ∧ Chain heap next rest := by
  obtain ⟨rest, rfl, total, ⟨-, rfl⟩ | ⟨next, points, behind⟩⟩ := chain.first
  · exact absurd total more
  · exact ⟨next, rest, points, rfl, behind⟩

theorem flatten_chain {fuel : Nat} (chain : Chain heap p nodes) (enough : nodes.length ≤ fuel) (buf : Memory)
    (wrPtr : Nat) : flatten heap fuel p buf wrPtr = some (writeBytes buf wrPtr (bytesOf heap nodes)) := by
  induction fuel generalizing p nodes buf wrPtr with
  | zero =>
      obtain ⟨rest, rfl, -⟩ := chain.first
      cases enough
  | succ fuel ih =>
      rw [flatten]
      by_cases last : (heap p).totLen.toNat = (heap p).len
      · rw [if_pos last, chain.last last]
      · obtain ⟨next, rest, points, rfl, behind⟩ := chain.more last
        rw [if_neg last, points]
        dsimp only
        rw [ih behind (Nat.le_of_succ_le_succ enough), bytesOf_cons, Pbuf.len, writeBytes_append]

theorem dswifiLinkOutput_sent {fuel : Nat} (chain : Chain heap p nodes) (enough : nodes.length ≤ fuel)
    (malloc : Nat → Option Memory) (transmit : List UInt8 → Int) :
    (dswifiLinkOutput malloc transmit heap fuel p).map (·.sent) =
      some (if (heap p).totLen = 0 then none
        else if (heap p).totLen.toNat ≠ (heap p).len ∧ malloc (heap p).totLen.toNat = none then none
        else some (bytesOf heap nodes)) := by
  have zero : (heap p).totLen = 0 ↔ (heap p).totLen.toNat = 0 :=
    UInt16.toNat_inj.symm
  rw [dswifiLinkOutput]
  by_cases none : (heap p).totLen.toNat = 0
  · simp only [if_pos none, if_pos (zero.mpr none), Option.map_some]
  · simp only [if_neg none, if_neg (mt zero.mp none)]
    by_cases last : (heap p).totLen.toNat = (heap p).len
    · simp only [last, ne_eq, not_true_eq_false, false_and, if_true, if_false, transmitted, Option.map_some,
        chain.last last]
    · simp only [ne_eq, last, not_false_eq_true, true_and, if_false]
      cases malloc (heap p).totLen.toNat with
      | none => simp
      | some buf =>
          simp only [reduceCtorEq, if_false]
          have whole := writeBytes_inPlace buf 0 (bytesOf heap nodes)
          rw [flatten_chain chain enough, chain.totLen]
          simp only [Option.map_some, transmitted]
          rw [whole]

theorem Pbuf.copy_len (node : Pbuf) (text : List UInt8) : (node.copy text).len = node.len := by
  simp only [copy, len, List.length_append, List.length_take, List.length_drop]
  omega

theorem Pbuf.copy_payload {node : Pbuf} {text : List UInt8} (whole : text.length = node.len) :
    (node.copy text).payload = text := by
  have gone : node.payload.drop text.length = [] := List.drop_eq_nil_of_le (le_of_eq whole.symm)
  simp only [copy, gone, List.append_nil]
  exact List.take_of_length_le (le_of_eq whole)

/-- Only bytes of the payloads are different. -/
structure SameShape (first second : Heap) : Prop where
  next : ∀ node, (second node).next = (first node).next
  totLen : ∀ node, (second node).totLen = (first node).totLen
  len : ∀ node, (second node).len = (first node).len

theorem SameShape.trans {first second third : Heap} (before : SameShape first second)
    (after : SameShape second third) : SameShape first third where
  next node := (after.next node).trans (before.next node)
  totLen node := (after.totLen node).trans (before.totLen node)
  len node := (after.len node).trans (before.len node)

theorem SameShape.length {first second : Heap} (same : SameShape first second) (nodes : List Nat) :
    (bytesOf second nodes).length = (bytesOf first nodes).length := by
  simp only [bytesOf, List.length_flatMap]
  exact congrArg List.sum (List.map_congr_left fun node _ => same.len node)

theorem Chain.sameShape {second : Heap} (chain : Chain heap p nodes) (same : SameShape heap second) :
    Chain second p nodes where
  linked := by
    have next : (fun node => (second node).next) = fun node => (heap node).next := funext same.next
    rw [next]
    exact chain.linked
  totals node rest behind := by rw [same.totLen, same.length, chain.totals node rest behind]

theorem sameShape_copy (heap : Heap) (node : Nat) (text : List UInt8) :
    SameShape heap (Function.update heap node ((heap node).copy text)) where
  next other := by
    by_cases same : other = node
    · subst same
      rw [Function.update_self]
      rfl
    · rw [Function.update_of_ne same]
  totLen other := by
    by_cases same : other = node
    · subst same
      rw [Function.update_self]
      rfl
    · rw [Function.update_of_ne same]
  len other := by
    by_cases same : other = node
    · subst same
      rw [Function.update_self, Pbuf.copy_len]
    · rw [Function.update_of_ne same]

/-- The bytes are all in the pieces of the chain, and no other piece is written to. -/
structure Spread (heap after : Heap) (nodes : List Nat) (src : List UInt8) : Prop where
  shape : SameShape heap after
  bytes : bytesOf after nodes = src
  others : ∀ node, node ∉ nodes → after node = heap node

theorem spread_chain {fuel : Nat} (chain : Chain heap p nodes) (enough : nodes.length ≤ fuel) {src : List UInt8}
    (size : (heap p).totLen.toNat = src.length) :
    ∃ after, spread fuel heap p src = some (after, []) ∧ Spread heap after nodes src := by
  induction fuel generalizing heap p nodes src with
  | zero =>
      obtain ⟨rest, rfl, -⟩ := chain.first
      cases enough
  | succ fuel ih =>
      obtain ⟨rest, rfl, total, -⟩ := chain.first
      have room : min src.length (heap p).len = (heap p).len := by omega
      have whole : (src.take (heap p).len).length = (heap p).len := by
        rw [List.length_take]
        exact Nat.min_eq_left (by omega)
      have shape := sameShape_copy heap p (src.take (heap p).len)
      have copied : (Function.update heap p ((heap p).copy (src.take (heap p).len)) p).payload =
          src.take (heap p).len := by rw [Function.update_self, Pbuf.copy_payload whole]
      rw [spread]
      rw [room, shape.totLen, shape.len, shape.next]
      have fresh := (List.nodup_cons.mp chain.linked.nodup).1
      by_cases last : (heap p).totLen.toNat = (heap p).len
      · rw [if_pos last]
        have all : src.length ≤ (heap p).len := by omega
        have empty : bytesOf heap rest = [] := List.length_eq_zero_iff.mp (by omega)
        refine ⟨_, by rw [List.drop_eq_nil_of_le all], shape, ?_, fun node other => ?_⟩
        · rw [(chain.sameShape shape).last (by rw [shape.totLen, shape.len, last]), copied, List.take_of_length_le all]
        · refine Function.update_of_ne ?_ _ _
          rintro rfl
          exact other List.mem_cons_self
      · obtain ⟨next, rest', points, same, behind⟩ := chain.more last
        obtain rfl := (List.cons.inj same).2
        rw [if_neg last, points]
        dsimp only
        have left : (heap next).totLen.toNat = (src.drop (heap p).len).length := by
          rw [behind.totLen, List.length_drop]
          omega
        obtain ⟨after, run, done⟩ := ih (behind.sameShape shape) (Nat.le_of_succ_le_succ enough)
          (by rw [shape.totLen, left])
        refine ⟨after, run, shape.trans done.shape, ?_, fun node other => ?_⟩
        · rw [bytesOf_cons, done.bytes, done.others p fresh, copied, List.take_append_drop]
        · rw [done.others node (fun member => other (List.mem_cons_of_mem _ member))]
          refine Function.update_of_ne ?_ _ _
          rintro rfl
          exact other List.mem_cons_self

theorem dswifiSendDataToLwip_chain {pbufAlloc : Nat → Option (Heap × Nat)} (allocates : Allocates pbufAlloc)
    (data : List UInt8) : ∃ enough, ∀ fuel, enough ≤ fuel →
      (pbufAlloc (data.length % 65536) = none ∨ 65536 ≤ data.length) ∧
        dswifiSendDataToLwip pbufAlloc fuel data = some .dropped ∨
      ∃ heap after p nodes, pbufAlloc data.length = some (heap, p) ∧
        dswifiSendDataToLwip pbufAlloc fuel data = some (.input after p) ∧
        Chain after p nodes ∧ Spread heap after nodes data := by
  cases found : pbufAlloc (data.length % 65536) with
  | none =>
      refine ⟨0, fun fuel _ => .inl ⟨.inl rfl, ?_⟩⟩
      rw [dswifiSendDataToLwip, found]
  | some given =>
      obtain ⟨heap, p⟩ := given
      obtain ⟨total, nodes, chain⟩ := allocates _ heap p (Nat.mod_lt _ (by omega)) found
      refine ⟨nodes.length, fun fuel enough => ?_⟩
      rw [dswifiSendDataToLwip, found]
      dsimp only
      by_cases long : 65536 ≤ data.length
      · rw [if_pos (by omega)]
        exact .inl ⟨.inr long, rfl⟩
      · have short : data.length % 65536 = data.length := Nat.mod_eq_of_lt (by omega)
        rw [short] at total found
        obtain ⟨after, run, done⟩ := spread_chain chain enough total
        rw [if_neg (by omega), run]
        exact .inr ⟨heap, after, p, nodes, found, rfl, chain.sameShape done.shape, done⟩

theorem pointTo_other {last : Option Nat} {node : Nat} (other : last ≠ some node) (heap : Heap) (q : Nat) :
    pointTo heap last q node = heap node := by
  cases last with
  | none => rfl
  | some last => exact Function.update_of_ne (fun same => other (congrArg some same.symm)) _ _

/-- A piece in front of a chain, or alone, makes a chain. -/
theorem Chain.ahead {node : Nat} {rest : List Nat} (next : (heap node).next = none ∧ rest = [] ∨
      ∃ q, (heap node).next = some q ∧ Chain heap q rest)
    (total : (heap node).totLen.toNat = (heap node).len + (bytesOf heap rest).length) :
    Chain heap node (node :: rest) where
  linked := by
    refine .cons ?_
    obtain ⟨points, rfl⟩ | ⟨q, points, behind⟩ := next
    · simp only [points]
      exact .nil
    · simp only [points]
      exact behind.linked
  totals other rest' behind := by
    rcases List.suffix_cons_iff.mp behind with same | later
    · obtain ⟨rfl, rfl⟩ := List.cons.inj same
      rw [total, bytesOf_cons, List.length_append, Pbuf.len]
    · obtain ⟨-, rfl⟩ | ⟨q, -, chain⟩ := next
      · cases List.suffix_nil.mp later
      · exact chain.totals other rest' later

theorem pointTo_update {last : Option Nat} {q node : Nat} (other : node ≠ q) (outside : last ≠ some q)
    (heap : Heap) (fresh : Pbuf) : pointTo (Function.update heap q fresh) last q node = pointTo heap last q node := by
  cases last with
  | none => exact Function.update_of_ne other _ _
  | some last =>
      have apart : last ≠ q := fun same => outside (congrArg some same)
      simp only [pointTo, Function.update_apply, if_neg apart, if_neg other]

/-- One more piece of the pool, and a chain of the others for what does not fit in it. -/
theorem pbufAllocLoop_chain {buffers : Nat → Memory} {free : List Nat} (distinct : free.Nodup) {heap : Heap}
    {first last : Option Nat} (outside : ∀ node ∈ free, last ≠ some node) {remLen : UInt16} {offset : Nat}
    {after : Heap} {start : Nat} (run : pbufAllocLoop buffers free heap first last remLen offset = some (after, start)) :
    ∃ q nodes, start = first.getD q ∧ nodes ⊆ free ∧ Chain after q nodes ∧ (after q).totLen = remLen ∧
      ∀ node, node ∉ nodes → after node = pointTo heap last q node := by
  induction free generalizing heap first last remLen offset with
  | nil => cases run
  | cons q free ih =>
      obtain ⟨fresh, distinct⟩ := List.nodup_cons.mp distinct
      rw [pbufAllocLoop] at run
      generalize UInt16.ofNat (poolBufsize - alignSize offset) = room at run
      generalize size : (if remLen < room then remLen else room) = qlen at run
      generalize made : initAlloced (buffers q) offset remLen qlen = piece at run
      have part : qlen ≤ remLen := by
        subst size
        split
        · exact UInt16.le_refl remLen
        · rename_i less
          exact UInt16.not_lt.mp less
      have own : piece.next = none ∧ piece.len = qlen.toNat ∧ piece.totLen = remLen := by
        subst made
        exact ⟨rfl, readBytes_length .., rfl⟩
      have notLast := outside q List.mem_cons_self
      have there : pointTo (Function.update heap q piece) last q q = piece := by
        rw [pointTo_other notLast, Function.update_self]
      split at run
      · obtain ⟨next, rest, rfl, inside, chain, total, others⟩ :=
          ih distinct (fun node member same => fresh (by rwa [Option.some.inj same])) run
        have notRest : q ∉ rest := fun member => fresh (inside member)
        have mine : after q = { piece with next := some next } := by
          rw [others q notRest, pointTo, Function.update_self, there]
        refine ⟨q, q :: rest, rfl, List.cons_subset_cons q inside, .ahead ?_ ?_, ?_, fun node other => ?_⟩
        · exact .inr ⟨next, by rw [mine], chain⟩
        · have left : (remLen - qlen).toNat = remLen.toNat - qlen.toNat := UInt16.toNat_sub_of_le _ _ part
          have bound : qlen.toNat ≤ remLen.toNat := part
          have length : (after q).len = qlen.toNat := by rw [mine, ← own.2.1, Pbuf.len, Pbuf.len]
          rw [← chain.totLen, total, left, length, mine, own.2.2]
          omega
        · rw [mine, own.2.2]
        · obtain ⟨notQ, notIn⟩ := not_or.mp (mt List.mem_cons.mpr other)
          rw [others node notIn, pointTo_other (fun same => notQ (Option.some.inj same).symm),
            pointTo_update notQ notLast]
      · rename_i full
        obtain ⟨rfl, rfl⟩ := Prod.mk.inj (Option.some.inj run)
        refine ⟨q, [q], rfl, List.cons_subset_cons q (List.nil_subset _), .ahead ?_ ?_, ?_, fun node other => ?_⟩
        · rw [there]
          exact .inl ⟨own.1, rfl⟩
        · rw [there, own.2.1, own.2.2]
          have left : (remLen - qlen).toNat = remLen.toNat - qlen.toNat := UInt16.toNat_sub_of_le _ _ part
          have bound : qlen.toNat ≤ remLen.toNat := part
          have none : ¬0 < (remLen - qlen).toNat := full
          simp only [bytesOf, List.flatMap_nil, List.length_nil]
          omega
        · rw [there, own.2.2]
        · exact pointTo_update (fun same => other (List.mem_singleton.mpr same)) notLast heap piece

theorem pbufAlloc_allocates (pool : Pool) (heap : Heap) : Allocates (pbufAlloc pool heap) := by
  intro length after p small found
  obtain ⟨q, nodes, rfl, -, chain, total, -⟩ := pbufAllocLoop_chain pool.distinct
    (fun _ _ => (Option.some_ne_none _).symm) found
  refine ⟨?_, nodes, chain⟩
  rw [total, UInt16.toNat_ofNat_of_lt' small]

/-- The bytes of a packet are the same in one stretch and in pieces, both ways. -/
theorem pbufs_keep_bytes (chain : Chain heap p nodes) {alloc : Nat → Option (Heap × Nat)}
    (allocates : Allocates alloc) :
    (∀ malloc transmit fuel, nodes.length ≤ fuel →
      (dswifiLinkOutput malloc transmit heap fuel p).map (·.sent) =
        some (if (heap p).totLen = 0 then none
          else if (heap p).totLen.toNat ≠ (heap p).len ∧ malloc (heap p).totLen.toNat = none then none
          else some (bytesOf heap nodes))) ∧
      ∀ data : List UInt8, ∃ enough, ∀ fuel, enough ≤ fuel →
        (alloc (data.length % 65536) = none ∨ 65536 ≤ data.length) ∧
            dswifiSendDataToLwip alloc fuel data = some .dropped ∨
          ∃ after first pieces, dswifiSendDataToLwip alloc fuel data = some (.input after first) ∧
            Chain after first pieces ∧ bytesOf after pieces = data := by
  refine ⟨fun malloc transmit fuel enough => dswifiLinkOutput_sent chain enough malloc transmit, fun data => ?_⟩
  obtain ⟨enough, done⟩ := dswifiSendDataToLwip_chain allocates data
  refine ⟨enough, fun fuel reaches => (done fuel reaches).imp_right ?_⟩
  rintro ⟨_, after, first, pieces, -, run, whole, filled⟩
  exact ⟨after, first, pieces, run, whole, filled.bytes⟩

/-- Three bytes in two pieces, with an empty one between them. -/
def threePieces : Heap
  | 0 => { next := some 1, payload := [1, 2], totLen := 3, fits := by decide }
  | 1 => { next := some 2, payload := [], totLen := 1, fits := by decide }
  | _ => { next := none, payload := [3], totLen := 1, fits := by decide }

theorem threePieces_chain : Chain threePieces 0 [0, 1, 2] :=
  .ahead (.inr ⟨1, rfl, .ahead (.inr ⟨2, rfl, .ahead (.inl ⟨rfl, rfl⟩) rfl⟩) rfl⟩) rfl

/-- The data that is received needs three pieces of the pool. -/
theorem pbufs_keep_bytes_three :
    (dswifiLinkOutput (fun _ => some fun _ => 0) (fun _ => 0) threePieces 3 0).map (·.sent) = some (some [1, 2, 3]) ∧
      ∃ enough, ∀ fuel, enough ≤ fuel →
        let alloc := pbufAlloc { free := [0, 1, 2, 3], distinct := by decide, buffers := fun _ _ => 0 } threePieces
        let data : List UInt8 := List.replicate 2000 7 ++ List.replicate 2000 8
        (alloc (data.length % 65536) = none ∨ 65536 ≤ data.length) ∧
            dswifiSendDataToLwip alloc fuel data = some .dropped ∨
          ∃ after first pieces, dswifiSendDataToLwip alloc fuel data = some (.input after first) ∧
            Chain after first pieces ∧ bytesOf after pieces = data := by
  obtain ⟨sent, received⟩ := pbufs_keep_bytes threePieces_chain (pbufAlloc_allocates
    { free := [0, 1, 2, 3], distinct := by decide, buffers := fun _ _ => 0 } threePieces)
  exact ⟨sent _ _ 3 le_rfl, received (List.replicate 2000 7 ++ List.replicate 2000 8)⟩

end Dswifi.Lwip
