import MemsHal.ByteMemory
import MemsHal.Run
/-!
# LockfreeBuffer — the ring buffer of a direct channel, and its reader

`core/DirectChannel.cpp` writes events into the slots of a shared region, one after the other and round again, with a
counter in each; `parseEvents` of the tests reads on from a slot until the counters stop growing.  The layout of
`sensors_event_t` comes from a platform header, and the `DIRECT_REPORT_SENSOR_EVENT` constants of the reader, which
describe the same layout, from the AIDL interface.
-/
namespace MemsHal

open ByteMemory

/-- The layout of `sensors_event_t`: its size and the offsets of its fields. -/
structure EventLayout where
  sizeof : Nat
  version : Nat
  sensor : Nat
  type : Nat
  reserved0 : Nat
  timestamp : Nat
  data : Nat
  hversion : version + 4 ≤ sensor
  hsensor : sensor + 4 ≤ type
  htype : type + 4 ≤ reserved0
  hreserved0 : reserved0 + 4 = timestamp
  htimestamp : timestamp + 8 ≤ data
  hdata : data + 64 ≤ sizeof
  hsizeof : sizeof < 2 ^ 31

/-- The layout of the platform header. -/
def EventLayout.platform : EventLayout where
  sizeof := 104
  version := 0
  sensor := 4
  type := 8
  reserved0 := 12
  timestamp := 16
  data := 24
  hversion := by decide
  hsensor := by decide
  htype := by decide
  hreserved0 := by decide
  htimestamp := by decide
  hdata := by decide
  hsizeof := by decide

/-- The bytes of a `sensors_event_t`. -/
abbrev SensorsEvent := ByteMemory

def loadInt32 (m : ByteMemory) (a : Nat) : Int32 := Int32.ofNat (load m a 4)

def loadUInt32 (m : ByteMemory) (a : Nat) : UInt32 := UInt32.ofNat (load m a 4)

def loadInt64 (m : ByteMemory) (a : Nat) : Int64 := Int64.ofNat (load m a 8)

/-! ## The writer -/

/-- `mData` is the region, which starts with the first slot. -/
structure LockfreeBuffer where
  mData : ByteMemory
  mSize : Nat
  mWritePos : Nat
  mCounter : Int32

namespace LockfreeBuffer

variable (L : EventLayout)

def construct (buf : ByteMemory) (size : Nat) : LockfreeBuffer where
  mData := memset buf 0 0 size
  mSize := size / L.sizeof
  mWritePos := 0
  mCounter := 1

/-- The two copies and the counter. -/
def writeSlot (m : ByteMemory) (slot : Nat) (ev : SensorsEvent) (counter : Int32) : ByteMemory :=
  let m := memcpy m (slot * L.sizeof) ev 0 L.reserved0
  let m := memcpy m (slot * L.sizeof + L.timestamp) ev L.timestamp (L.sizeof - L.timestamp)
  store m (slot * L.sizeof + L.reserved0) 4 counter.toUInt32.toNat

/-- The body of the loop of `write`. -/
def writeEvent (b : LockfreeBuffer) (ev : SensorsEvent) : LockfreeBuffer where
  mData := writeSlot L b.mData b.mWritePos ev b.mCounter
  mSize := b.mSize
  mWritePos := if b.mSize ≤ b.mWritePos + 1 then 0 else b.mWritePos + 1
  mCounter := b.mCounter + 1

def write (b : LockfreeBuffer) (ev : List SensorsEvent) : LockfreeBuffer :=
  if b.mSize = 0 then b else ev.foldl (writeEvent L) b

end LockfreeBuffer

/-! ## The reader -/

/-- An event of `parseEvents`; `data` holds the words of its 16 floats. -/
structure ParsedEvent where
  timestamp : Int64
  sensorHandle : Int32
  sensorType : Int32
  data : List UInt32
  deriving DecidableEq, Repr

namespace SharedMemory

variable (L : EventLayout)

def parseEvent (mBuffer : ByteMemory) (offset : Nat) : ParsedEvent where
  timestamp := loadInt64 mBuffer (offset + L.timestamp)
  sensorHandle := loadInt32 mBuffer (offset + L.sensor)
  sensorType := loadInt32 mBuffer (offset + L.type)
  data := (List.range 16).map fun i => loadUInt32 mBuffer (offset + L.data + 4 * i)

/-- The loop of `parseEvents`, with the events read so far.  The comparison with `kEventSize` is one of `size_t`. -/
def parseLoop (mBuffer : ByteMemory) (mSize : Nat) (events : List ParsedEvent) (lastCounter : Int) (offset : Nat) :
    List ParsedEvent :=
  if offset + L.sizeof ≤ mSize then
    let atomicCounter : Int := (loadUInt32 mBuffer (offset + L.reserved0)).toNat
    if atomicCounter ≤ lastCounter then events
    else if (loadInt32 mBuffer (offset + L.version)).toInt64.toUInt64.toNat ≠ L.sizeof then []
    else parseLoop mBuffer mSize (events ++ [parseEvent L mBuffer offset]) atomicCounter (offset + L.sizeof)
  else events
termination_by mSize - offset
decreasing_by
  have := L.hdata
  omega

def parseEvents (mBuffer : ByteMemory) (mSize : Nat) (lastCounter : Int) (offset : Nat) : List ParsedEvent :=
  parseLoop L mBuffer mSize [] lastCounter offset

end SharedMemory

/-! ## What the slots hold -/

namespace LockfreeBuffer

variable (L : EventLayout)

/-- A slot holds an event as the `k`-th one: all its bytes but those of `reserved0`, and the counter there. -/
structure Holds (m : ByteMemory) (slot : Nat) (ev : SensorsEvent) (k : Nat) : Prop where
  bytes : ∀ i < L.sizeof, i < L.reserved0 ∨ L.reserved0 + 4 ≤ i → m (slot * L.sizeof + i) = ev i
  counter : loadUInt32 m (slot * L.sizeof + L.reserved0) = UInt32.ofNat k

/-- **The region encodes a sequence of events**: of the last ones, as many as there are slots, the `k`-th is in slot
`(k - 1) % N` with the counter `k`, and the slots not yet used are zero. -/
structure Encoded (N : Nat) (events : List SensorsEvent) (b : LockfreeBuffer) : Prop where
  slots : ∀ k ev, 1 ≤ k → events.length + 1 ≤ k + N → events[k - 1]? = some ev → Holds L b.mData ((k - 1) % N) ev k
  fresh : ∀ slot < N, events.length ≤ slot → ∀ i < L.sizeof, b.mData (slot * L.sizeof + i) = 0
  writePos : b.mWritePos = events.length % N

/-- What `Encoded` is an induction on: the counter runs along. -/
structure Inv (N : Nat) (events : List SensorsEvent) (b : LockfreeBuffer) : Prop where
  encoded : Encoded L N events b
  size : b.mSize = N
  counter : b.mCounter = Int32.ofNat (events.length + 1)

/-! ### One slot -/

section Slot

variable {L} {m : ByteMemory} {pos : Nat} {ev : SensorsEvent} {c : Int32}

/-- A slot is written from its first byte to its last. -/
theorem writeSlot_other {a : Nat} (h : a < pos * L.sizeof ∨ pos * L.sizeof + L.sizeof ≤ a) :
    writeSlot L m pos ev c a = m a := by
  have hlayout := L.hreserved0
  have hdata := L.hdata
  have htimestamp := L.htimestamp
  unfold writeSlot
  rw [store_other (by omega), memcpy_other (by omega), memcpy_other (by omega)]

theorem writeSlot_slot_ne {slot i : Nat} (hne : slot ≠ pos) (hi : i < L.sizeof) :
    writeSlot L m pos ev c (slot * L.sizeof + i) = m (slot * L.sizeof + i) := by
  refine writeSlot_other ?_
  rcases Nat.lt_or_gt_of_ne hne with hlt | hgt
  · have hmul := Nat.mul_le_mul_right L.sizeof (Nat.succ_le_of_lt hlt)
    rw [Nat.succ_mul] at hmul
    omega
  · have hmul := Nat.mul_le_mul_right L.sizeof (Nat.succ_le_of_lt hgt)
    rw [Nat.succ_mul] at hmul
    omega

/-- **A slot holds the event that was written to it.** -/
theorem holds_writeSlot (k : Nat) : Holds L (writeSlot L m pos ev (Int32.ofNat k)) pos ev k where
  bytes i hi hne := by
    have hlayout := L.hreserved0
    unfold writeSlot
    rw [store_other (by omega)]
    rcases hne with hlt | hge
    · rw [memcpy_other (by omega), memcpy_at hlt, Nat.zero_add]
    · have hcopy : i - L.timestamp < L.sizeof - L.timestamp := by omega
      have hat : memcpy (memcpy m (pos * L.sizeof) ev 0 L.reserved0) (pos * L.sizeof + L.timestamp) ev L.timestamp
          (L.sizeof - L.timestamp) (pos * L.sizeof + L.timestamp + (i - L.timestamp)) =
            ev (L.timestamp + (i - L.timestamp)) := memcpy_at hcopy
      rw [Nat.add_assoc, Nat.add_sub_cancel' (by omega)] at hat
      exact hat
  counter := by
    unfold writeSlot loadUInt32
    rw [load_store]
    apply UInt32.toNat_inj.1
    rw [UInt32.toNat_ofNat', UInt32.toNat_ofNat']
    show (UInt32.ofNat k).toNat % 256 ^ 4 % 2 ^ 32 = k % 2 ^ 32
    rw [UInt32.toNat_ofNat']
    omega

theorem Holds.writeSlot_ne {slot k : Nat} {ev' : SensorsEvent} (h : Holds L m slot ev' k) (hne : slot ≠ pos) :
    Holds L (writeSlot L m pos ev c) slot ev' k where
  bytes i hi hreserved := (writeSlot_slot_ne hne hi).trans (h.bytes i hi hreserved)
  counter := by
    have hlayout := L.hreserved0
    have hdata := L.hdata
    have htimestamp := L.htimestamp
    rw [← h.counter]
    unfold loadUInt32
    refine congrArg UInt32.ofNat (load_congr fun i hi => ?_)
    rw [Nat.add_assoc]
    exact writeSlot_slot_ne hne (by omega)

end Slot

/-! ### Positions -/

theorem succ_mod {N : Nat} (hN : 0 < N) (n : Nat) : (n + 1) % N = if N ≤ n % N + 1 then 0 else n % N + 1 := by
  have hlt := Nat.mod_lt n hN
  rw [← Nat.mod_add_mod]
  split
  · rename_i hle
    rw [show n % N + 1 = N by omega, Nat.mod_self]
  · exact Nat.mod_eq_of_lt (by omega)

/-- Of the last events, no two share a slot. -/
theorem mod_ne_of_lt {N i n : Nat} (hi : i < n) (hn : n < i + N) : i % N ≠ n % N := by
  intro heq
  have hdvd : (n - i) % N = 0 := Nat.sub_mod_eq_zero_of_mod_eq heq.symm
  rw [Nat.mod_eq_of_lt (by omega)] at hdvd
  omega

/-! ### Runs of the writer -/

theorem inv_construct (buf : ByteMemory) (size : Nat) : Inv L (size / L.sizeof) [] (construct L buf size) where
  encoded :=
    { slots := fun _ _ _ _ hev => by cases hev
      fresh := fun slot hslot _ i hi => by
        have hmul := Nat.mul_le_mul_right L.sizeof (Nat.succ_le_of_lt hslot)
        have hsize := Nat.div_mul_le_self size L.sizeof
        rw [Nat.succ_mul] at hmul
        have hset : memset buf 0 0 size (0 + (slot * L.sizeof + i)) = 0 := memset_at (by omega)
        rw [Nat.zero_add] at hset
        exact hset
      writePos := (Nat.zero_mod _).symm }
  size := rfl
  counter := rfl

/-- **One event more.** -/
theorem inv_writeEvent {N : Nat} (hN : 0 < N) {events : List SensorsEvent} {b : LockfreeBuffer} (h : Inv L N events b)
    (ev : SensorsEvent) : Inv L N (events ++ [ev]) (b.writeEvent L ev) where
  encoded :=
    { slots := fun k ev' hpos hlast hev => by
        rw [List.length_append, List.length_singleton] at hlast
        unfold writeEvent
        dsimp only
        rw [h.encoded.writePos, h.counter]
        by_cases hk : k = events.length + 1
        · subst hk
          rw [Nat.add_sub_cancel, List.getElem?_concat_length] at hev
          cases hev
          exact holds_writeSlot _
        · have hlt : k - 1 < events.length := by
            have hle := (List.getElem?_eq_some_iff.1 hev).1
            rw [List.length_append, List.length_singleton] at hle
            omega
          rw [List.getElem?_append_left hlt] at hev
          exact (h.encoded.slots k ev' hpos (by omega) hev).writeSlot_ne (mod_ne_of_lt hlt (by omega))
      fresh := fun slot hslot hle i hi => by
        rw [List.length_append, List.length_singleton] at hle
        unfold writeEvent
        dsimp only
        have hne : slot ≠ b.mWritePos := by
          rw [h.encoded.writePos, Nat.mod_eq_of_lt (by omega)]
          omega
        rw [writeSlot_slot_ne hne hi]
        exact h.encoded.fresh slot hslot (by omega) i hi
      writePos := by
        unfold writeEvent
        dsimp only
        rw [h.size, h.encoded.writePos, List.length_append, List.length_singleton, succ_mod hN] }
  size := h.size
  counter := by
    unfold writeEvent
    dsimp only
    rw [h.counter, List.length_append, List.length_singleton]
    exact (Int32.ofNat_add (events.length + 1) 1).symm

theorem inv_write {N : Nat} (hN : 0 < N) (ev : List SensorsEvent) {events : List SensorsEvent} {b : LockfreeBuffer}
    (h : Inv L N events b) : Inv L N (events ++ ev) (b.write L ev) := by
  unfold write
  rw [if_neg (by rw [h.size]; omega)]
  induction ev generalizing events b with
  | nil =>
    rw [List.append_nil]
    exact h
  | cons e ev ih =>
    rw [List.foldl_cons, List.append_cons]
    exact ih (inv_writeEvent L hN h e)

theorem inv_run {N : Nat} (hN : 0 < N) : ∀ (batches : List (List SensorsEvent)) {events : List SensorsEvent}
    {b : LockfreeBuffer}, Inv L N events b → Inv L N (events ++ batches.flatten) (Run.run (write L) b batches)
  | [], events, b, h => by
    rw [List.flatten_nil, List.append_nil]
    exact h
  | ev :: batches, events, b, h => by
    rw [List.flatten_cons, ← List.append_assoc]
    exact inv_run hN batches (inv_write L hN ev h)

/-! ### The reader -/

open SharedMemory

variable {L}

theorem Holds.load {m : ByteMemory} {slot k : Nat} {ev : SensorsEvent} (h : Holds L m slot ev k) {a n : Nat}
    (hsize : a + n ≤ L.sizeof) (hreserved : a + n ≤ L.reserved0 ∨ L.reserved0 + 4 ≤ a) :
    load m (slot * L.sizeof + a) n = load ev a n := by
  refine load_congr fun i hi => ?_
  rw [Nat.add_assoc]
  exact h.bytes (a + i) (by omega) (by omega)

/-- A slot is parsed like the event it holds. -/
theorem Holds.parseEvent {m : ByteMemory} {slot k : Nat} {ev : SensorsEvent} (h : Holds L m slot ev k) :
    parseEvent L m (slot * L.sizeof) = SharedMemory.parseEvent L ev 0 := by
  have hversion := L.hversion
  have hsensor := L.hsensor
  have htype := L.htype
  have hreserved0 := L.hreserved0
  have htimestamp := L.htimestamp
  have hdata := L.hdata
  unfold SharedMemory.parseEvent loadInt64 loadInt32 loadUInt32
  rw [h.load (a := L.timestamp) (by omega) (by omega), h.load (a := L.sensor) (by omega) (by omega),
    h.load (a := L.type) (by omega) (by omega)]
  simp only [Nat.zero_add, ParsedEvent.mk.injEq, true_and]
  refine List.map_congr_left fun i hi => ?_
  have hlt := List.mem_range.1 hi
  rw [Nat.add_assoc, h.load (a := L.data + 4 * i) (by omega) (by omega)]

theorem Holds.counter_toNat {m : ByteMemory} {slot k : Nat} {ev : SensorsEvent} (h : Holds L m slot ev k)
    (hk : k < 2 ^ 32) : (loadUInt32 m (slot * L.sizeof + L.reserved0)).toNat = k := by
  rw [h.counter, UInt32.toNat_ofNat', Nat.mod_eq_of_lt hk]

/-- A size fits both types. -/
theorem toSizeT_sizeof : (Int32.ofNat L.sizeof).toInt64.toUInt64.toNat = L.sizeof := by
  have hsize := L.hsizeof
  have hint : (Int32.ofNat L.sizeof).toInt64.toBitVec.toInt = L.sizeof := by
    rw [show (Int32.ofNat L.sizeof).toInt64.toBitVec.toInt = _ from Int32.toInt_toInt64 (Int32.ofNat L.sizeof)]
    exact Int32.toInt_ofNat_of_lt hsize
  have hlt := (Int32.ofNat L.sizeof).toInt64.toBitVec.isLt
  rw [BitVec.toInt_eq_toNat_cond] at hint
  show (Int32.ofNat L.sizeof).toInt64.toBitVec.toNat = L.sizeof
  split at hint <;> omega

/-- The next slot after all events were read has an older counter. -/
theorem counter_stale {N : Nat} (hN : 0 < N) {events : List SensorsEvent} {b : LockfreeBuffer}
    (h : Encoded L N events b) (hn : events.length < 2 ^ 31) :
    ((loadUInt32 b.mData (events.length % N * L.sizeof + L.reserved0)).toNat : Int) ≤ events.length := by
  rcases Nat.lt_or_ge events.length N with hlt | hge
  · have hzero : load b.mData (events.length % N * L.sizeof + L.reserved0) 4 = 0 := by
      refine load_zero fun i hi => ?_
      have hreserved0 := L.hreserved0
      have htimestamp := L.htimestamp
      have hdata := L.hdata
      rw [Nat.add_assoc]
      exact h.fresh _ (Nat.mod_lt _ hN) (by rw [Nat.mod_eq_of_lt hlt]) _ (by omega)
    unfold loadUInt32
    rw [hzero]
    exact Int.natCast_nonneg _
  · have hlast : events.length - N < events.length := by omega
    have hold := h.slots (events.length - N + 1) _ (by omega) (by omega) (List.getElem?_eq_getElem hlast)
    rw [Nat.add_sub_cancel, ← Nat.mod_eq_sub_mod hge] at hold
    rw [hold.counter_toNat (by omega)]
    omega

/-- The loop, at the slot of the next event. -/
theorem parseLoop_eq {N : Nat} (hN : 0 < N) {size : Nat} (hsize : N = size / L.sizeof) {events : List SensorsEvent}
    {b : LockfreeBuffer} (h : Encoded L N events b) (hn : events.length < 2 ^ 31)
    (hversion : ∀ ev ∈ events, loadInt32 ev L.version = Int32.ofNat L.sizeof) :
    ∀ (j slot k : Nat) (acc : List ParsedEvent), slot + j = N → (slot < N → k % N = slot) → k ≤ events.length →
      events.length ≤ k + N →
      parseLoop L b.mData size acc k (slot * L.sizeof) =
        acc ++ ((events.drop k).take j).map (SharedMemory.parseEvent L · 0) := by
  have hsizeof : 0 < L.sizeof := by
    have hdata := L.hdata
    omega
  have hfits : ∀ slot, slot * L.sizeof + L.sizeof ≤ size ↔ slot < N := by
    intro slot
    rw [← Nat.succ_mul, hsize, ← Nat.le_div_iff_mul_le hsizeof]
    exact Nat.succ_le_iff
  intro j
  induction j with
  | zero =>
    intro slot k acc hslot _ _ _
    rw [parseLoop, if_neg (by rw [hfits]; omega), List.take_zero, List.map_nil, List.append_nil]
  | succ j ih =>
    intro slot k acc hslot hmod hk hlast
    have hlt : slot < N := by omega
    have hmod := hmod hlt
    rw [parseLoop, if_pos ((hfits slot).2 hlt)]
    dsimp only
    rcases Nat.lt_or_eq_of_le hk with hlt' | heq
    · have hev := List.getElem?_eq_getElem hlt'
      have hholds := h.slots (k + 1) _ (Nat.succ_pos k) (by omega) hev
      rw [Nat.add_sub_cancel, hmod] at hholds
      have hv : loadInt32 b.mData (slot * L.sizeof + L.version) = Int32.ofNat L.sizeof := by
        have hlayout := L.hversion
        have hsensor := L.hsensor
        have htype := L.htype
        have hreserved0 := L.hreserved0
        have htimestamp := L.htimestamp
        have hdata := L.hdata
        rw [← hversion _ (List.getElem_mem hlt')]
        unfold loadInt32
        rw [hholds.load (by omega) (by omega)]
      rw [hholds.counter_toNat (by omega), if_neg (by omega), hv, toSizeT_sizeof, if_neg (fun hne => hne rfl),
        hholds.parseEvent, ← Nat.succ_mul, List.drop_eq_getElem_cons hlt', List.take_succ_cons, List.map_cons]
      have hrest := ih (slot + 1) (k + 1) (acc ++ [SharedMemory.parseEvent L events[k] 0]) (by omega)
        (fun hnext => by rw [succ_mod hN, hmod, if_neg (by omega)]) hlt' (by omega)
      rw [List.append_assoc] at hrest
      exact hrest
    · subst heq
      rw [← hmod, if_pos (counter_stale hN h hn), List.drop_length, List.take_nil, List.map_nil, List.append_nil]

/-- **The region encodes the events written to it, and a reader gets on from any of the last ones** to the end of the
region or to the last event, whichever comes first. -/
theorem encoded_and_read (L : EventLayout) (buf : ByteMemory) (size : Nat) (hsize : 1 ≤ size / L.sizeof)
    (batches : List (List SensorsEvent)) :
    let N := size / L.sizeof
    let events := batches.flatten
    let b := Run.run (write L) (construct L buf size) batches
    Encoded L N events b ∧
      ((∀ ev ∈ events, loadInt32 ev L.version = Int32.ofNat L.sizeof) → events.length < 2 ^ 31 →
        ∀ k ≤ events.length, events.length ≤ k + N →
          parseEvents L b.mData size k (k % N * L.sizeof) =
            ((events.drop k).take (N - k % N)).map (SharedMemory.parseEvent L · 0)) := by
  intro N events b
  have hinv : Inv L N events b := inv_run L hsize batches (inv_construct L buf size)
  refine ⟨hinv.encoded, fun hversion hn k hk hlast => ?_⟩
  have hslot : k % N < N := Nat.mod_lt k hsize
  exact parseLoop_eq hsize rfl hinv.encoded hn hversion (N - k % N) (k % N) k [] (by omega) (fun _ => rfl) hk hlast

/-- Three events in two slots: after the second one there is only the third to read. -/
theorem read_threeInTwo :
    let ev (timestamp : UInt8) : SensorsEvent := fun i => if i = 0 then 104 else if i = 16 then timestamp else 0
    let b := Run.run (write .platform) (construct .platform (fun _ => 7) 208) [[ev 1], [ev 2, ev 3]]
    parseEvents .platform b.mData 208 2 0 = [⟨3, 0, 0, List.replicate 16 0⟩] := by
  intro ev b
  have hread := (encoded_and_read .platform (fun _ => 7) 208 (by decide) [[ev 1], [ev 2, ev 3]]).2
  refine (hread (fun e he => ?_) (by decide) 2 (by decide) (by decide)).trans (by decide)
  rcases List.mem_cons.1 he with rfl | he
  · decide
  · rcases List.mem_cons.1 he with rfl | he
    · decide
    · cases List.mem_singleton.1 he
      decide

end LockfreeBuffer

end MemsHal
