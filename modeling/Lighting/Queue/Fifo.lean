import Lighting.Lib.Lending
import Lighting.Queue.Lend

/-!
# The ring buffer is a queue that lends

A run of calls on one buffer, with the account of what the calls answered kept beside it. As
long as the application returns only what it has, the buffer answers as a queue does, no check
of the code fails, every loop ends, and what is lent stays as it was put in until it is returned
(`ringbuffer_is_queue`). One case is left out: everything in a full buffer is out, and one of
several items is returned. `accounted_iff` says that it is the only one, and that the buffer then
takes the space of the other items for free.
-/

set_option autoImplicit false

namespace Lighting.Queue

open ByteMemory CString Arcs Parcel Runs Lending

inductive Call where
  | send (pvItem : Bytes)
  | receive
  | giveBack (pvItem : Nat)
  deriving DecidableEq, Repr

/-- What a call answers; `receive` with the bytes that are at the address. -/
def answer : Call → Ringbuffer → Option (Lending.Event Nat Bytes × Ringbuffer)
  | .send pvItem, rb =>
    match xRingbufferSend rb pvItem with
    | some (true, rb) => some (.put pvItem, rb)
    | some (false, rb) => some (.refuse pvItem, rb)
    | none => none
  | .receive, rb =>
    match xRingbufferReceive rb with
    | some (some (item, len), rb) => some (.take item (bytesAt rb.storage item len), rb)
    | some (none, rb) => some (.idle, rb)
    | none => none
  | .giveBack pvItem, rb => (vRingbufferReturnItem rb pvItem).map fun rb => (.giveBack pvItem, rb)

/-- The buffer and the account, as long as no check has failed. -/
abbrev Used := Option (Ringbuffer × Account Nat Bytes)

def use (c : Call) (s : Used) : Used :=
  s.bind fun p => (answer c p.1).map fun r => (r.2, book r.1 p.2)

/-- A new buffer. -/
def Used.start (memory : Mem) (xBufferSize : Nat) : Used :=
  some (xRingbufferCreate memory xBufferSize, .empty)

/-- What of a row is out, with its addresses. -/
def lentOf (xs : List Parcel) : List (Nat × Bytes) :=
  xs.filterMap fun x => if x.state = .lent then some (x.address, x.data) else none

/-- The account is what lies in the storage. -/
def Holds (rb : Ringbuffer) (q : Account Nat Bytes) : Prop :=
  ∃ out due, Laid rb out due ∧ q.lent = lentOf out ∧ q.waiting = due.map Parcel.data

/-! ## What is lent -/

section lent

variable {xs ys : List Parcel} {x : Parcel}

@[simp] theorem lentOf_append : lentOf (xs ++ ys) = lentOf xs ++ lentOf ys :=
  List.filterMap_append

theorem lentOf_cons_of_lent (xs : List Parcel) (h : x.state = .lent) :
    lentOf (x :: xs) = (x.address, x.data) :: lentOf xs := by
  unfold lentOf
  rw [List.filterMap_cons, if_pos h]

theorem lentOf_cons_of_not_lent (xs : List Parcel) (h : x.state ≠ .lent) :
    lentOf (x :: xs) = lentOf xs := by
  unfold lentOf
  rw [List.filterMap_cons, if_neg h]

theorem mem_lentOf {p : Nat × Bytes} : p ∈ lentOf xs ↔
    ∃ x ∈ xs, x.state = .lent ∧ (x.address, x.data) = p := by
  unfold lentOf
  rw [List.mem_filterMap]
  constructor
  · intro h
    obtain ⟨x, hx, heq⟩ := h
    split at heq
    · exact ⟨x, hx, by assumption, Option.some.inj heq⟩
    · exact absurd heq (Option.some_ne_none p).symm
  · intro h
    obtain ⟨x, hx, hstate, heq⟩ := h
    exact ⟨x, hx, by rw [if_pos hstate, heq]⟩

/-- Settling a row drops what was returned and nothing else. -/
theorem lentOf_settle (xs : List Parcel) : lentOf (settle rbItemFreeFlag xs) = lentOf xs := by
  induction xs with
  | nil => rfl
  | cons x xs ih =>
    by_cases hpass : x.Passed rbItemFreeFlag
    · rw [settle_cons_of_passed xs hpass, ih]
      rw [passed_free_iff] at hpass
      rw [lentOf_cons_of_not_lent xs (by rw [hpass]; exact ItemState.noConfusion)]
    · rw [settle_cons_of_not_passed xs hpass]
      by_cases hstate : x.state = .lent
      · rw [lentOf_cons_of_lent xs hstate]
        exact lentOf_cons_of_lent (x := x.seated) xs hstate
      · rw [lentOf_cons_of_not_lent xs hstate]
        exact lentOf_cons_of_not_lent (x := x.seated) xs hstate

/-- Two parcels of the rows are at different addresses. -/
theorem address_ne {rb : Ringbuffer} {out due l r : List Parcel} (h : Laid rb out due)
    (hsplit : out ++ due = l ++ x :: r) {y : Parcel} (hy : y ∈ l ++ r) :
    y.address ≠ x.address := by
  intro heq
  have hrow := h.row
  have hroom := h.room
  have hfits := h.fits
  rw [hsplit] at hrow hroom hfits
  have hxfits := hfits x (by simp)
  have hyfits := hfits y (by simp only [List.mem_append, List.mem_cons] at hy ⊢; tauto)
  have hseat : y.seat = x.seat := by
    unfold address at heq
    omega
  have hx : Within rb.xSize x x.seat :=
    hxfits.within_item ⟨Nat.le_refl _, Nat.lt_of_lt_of_le (by unfold rbHeaderSize; omega)
      x.seat_lt_stop⟩
  have hy' : Within rb.xSize y x.seat :=
    hyfits.within_item ⟨Nat.le_of_eq hseat, Nat.lt_of_lt_of_le
      (by unfold rbHeaderSize; omega : x.seat < y.seat + rbHeaderSize) y.seat_lt_stop⟩
  have hapart := chain_apart h.free_lt hrow hroom
  rw [List.pairwise_append, List.pairwise_cons] at hapart
  obtain ⟨-, ⟨hright, -⟩, hleft⟩ := hapart
  rcases List.mem_append.mp hy with hl | hr
  · exact hleft y hl x List.mem_cons_self x.seat hy' hx
  · exact hright y hr x.seat hx hy'

/-- The account of a row without one of its parcels. -/
theorem lentOf_release {rb : Ringbuffer} {l r due : List Parcel}
    (h : Laid rb (l ++ x :: r) due) (hstate : x.state = .lent) :
    lentOf (rest l x r) = (lentOf (l ++ x :: r)).filter fun p => p.1 ≠ x.address := by
  have hsplit : l ++ x :: r ++ due = l ++ x :: (r ++ due) := by
    rw [List.append_assoc, List.cons_append]
  have hkeep : ∀ ys : List Parcel, (∀ y ∈ ys, y ∈ l ++ (r ++ due)) →
      (lentOf ys).filter (fun p => p.1 ≠ x.address) = lentOf ys := by
    intro ys hys
    rw [List.filter_eq_self]
    intro p hp
    obtain ⟨y, hy, -, rfl⟩ := mem_lentOf.mp hp
    exact decide_eq_true (address_ne h hsplit (hys y hy))
  rw [lentOf_settle, lentOf_append, lentOf_append, lentOf_cons_of_not_lent r
    (by exact ItemState.noConfusion : x.release.state ≠ .lent), lentOf_cons_of_lent r hstate,
    List.filter_append, List.filter_cons_of_neg (by simp),
    hkeep l fun y hy => List.mem_append_left _ hy,
    hkeep r fun y hy => List.mem_append_right _ (List.mem_append_left _ hy)]

/-- Two items are out where another than `x` is. -/
theorem two_le_lentOf {l r : List Parcel} (hstate : x.state = .lent) :
    2 ≤ (lentOf (l ++ x :: r)).length ↔ ∃ y ∈ l ++ r, y.state = .lent := by
  have hsome : ∀ ys : List Parcel, 0 < (lentOf ys).length ↔ ∃ y ∈ ys, y.state = .lent := by
    intro ys
    rw [List.length_pos_iff_exists_mem]
    constructor
    · intro h
      obtain ⟨p, hp⟩ := h
      obtain ⟨y, hy, hlent, -⟩ := mem_lentOf.mp hp
      exact ⟨y, hy, hlent⟩
    · intro h
      obtain ⟨y, hy, hlent⟩ := h
      exact ⟨_, mem_lentOf.mpr ⟨y, hy, hlent, rfl⟩⟩
  rw [← hsome, lentOf_append, lentOf_append, lentOf_cons_of_lent r hstate]
  simp only [List.length_append, List.length_cons]
  omega

end lent

/-! ## One call -/

section call

variable {rb : Ringbuffer} {q : Account Nat Bytes}

/-- An item the application has is that of a parcel. -/
theorem out_of_lent {out : List Parcel} {a : Nat} (hlent : q.lent = lentOf out)
    (h : q.Out a) : ∃ l x r, out = l ++ x :: r ∧ x.state = .lent ∧ x.address = a := by
  obtain ⟨bs, hmem⟩ := h
  rw [hlent] at hmem
  obtain ⟨x, hx, hstate, heq⟩ := mem_lentOf.mp hmem
  obtain ⟨l, r, hsplit⟩ := List.append_of_mem hx
  exact ⟨l, x, r, hsplit, hstate, congrArg Prod.fst heq⟩

/-- Everything in a full buffer is out, and more than one item. -/
def AllOut (rb : Ringbuffer) (q : Account Nat Bytes) : Prop :=
  rb.full = true ∧ q.waiting = [] ∧ 2 ≤ q.lent.length

theorem answer_send (h : Holds rb q) (pvItem : Bytes) :
    ∃ e rb', answer (.send pvItem) rb = some (e, rb') ∧ Honest e q ∧ Holds rb' (book e q) := by
  obtain ⟨out, due, hlaid, hlent, hwaiting⟩ := h
  obtain ⟨sent, rb', hsend, -, hrefused, hput⟩ := xRingbufferSend_spec hlaid pvItem
  unfold answer
  dsimp only
  rw [hsend]
  cases sent with
  | false =>
    obtain ⟨rfl, -⟩ := hrefused rfl
    exact ⟨.refuse pvItem, rb', rfl, trivial, out, due, hlaid, hlent, hwaiting⟩
  | true =>
    obtain ⟨-, hlaid'⟩ := hput rfl
    refine ⟨.put pvItem, rb', rfl, trivial, out, _, hlaid', hlent, ?_⟩
    show q.waiting ++ [pvItem] = _
    rw [hwaiting, List.map_append]
    rfl

theorem answer_receive (h : Holds rb q) :
    ∃ e rb', answer .receive rb = some (e, rb') ∧ Honest e q ∧ Holds rb' (book e q) := by
  obtain ⟨out, due, hlaid, hlent, hwaiting⟩ := h
  cases due with
  | nil =>
    refine ⟨.idle, rb, ?_, hwaiting, out, [], hlaid, hlent, hwaiting⟩
    unfold answer
    dsimp only
    rw [xRingbufferReceive_nil hlaid]
  | cons x due =>
    have hmem : x ∈ out ++ x :: due := List.mem_append_right out List.mem_cons_self
    have hdata := (hlaid.stored x hmem).data
    refine ⟨.take x.address x.data, taken rb x, ?_, ⟨?_, ?_⟩, out ++ [x.lend], due, hlaid.take,
      ?_, ?_⟩
    · unfold answer
      dsimp only
      rw [xRingbufferReceive_cons hlaid]
      show some (Event.take x.address (bytesAt rb.storage x.address x.data.length), _) = _
      rw [hdata]
    · rw [hwaiting]
      rfl
    · intro hout
      obtain ⟨l, y, r, hsplit, -, haddress⟩ := out_of_lent hlent hout
      apply address_ne hlaid (l := out) (r := due) rfl _ haddress
      rw [hsplit]
      simp
    · show q.lent ++ [(x.address, x.data)] = _
      rw [hlent, lentOf_append]
      rfl
    · show q.waiting.tail = _
      rw [hwaiting]
      rfl

theorem answer_giveBack (h : Holds rb q) {a : Nat} (hout : q.Out a) (hspare : ¬AllOut rb q) :
    ∃ e rb', answer (.giveBack a) rb = some (e, rb') ∧ Honest e q ∧ Holds rb' (book e q) := by
  obtain ⟨out, due, hlaid, hlent, hwaiting⟩ := h
  obtain ⟨l, x, r, rfl, hstate, rfl⟩ := out_of_lent hlent hout
  have hother : rb.full = true → due = [] → ∀ y ∈ l ++ r, y.state ≠ .lent := by
    intro hfull hdue y hy hylent
    apply hspare
    refine ⟨hfull, ?_, ?_⟩
    · rw [hwaiting, hdue]
      rfl
    · rw [hlent]
      exact (two_le_lentOf hstate).mpr ⟨y, hy, hylent⟩
  obtain ⟨free, m, hreturn, hlaid'⟩ := hlaid.giveBack hstate hother
  refine ⟨.giveBack x.address, freed rb free m, ?_, hout, _, due, hlaid', ?_, hwaiting⟩
  · unfold answer
    dsimp only
    rw [hreturn]
    rfl
  · show q.lent.filter (fun p => p.1 ≠ x.address) = _
    rw [hlent, lentOf_release hlaid hstate]

theorem answer_spec (h : Holds rb q) (c : Call) (hout : ∀ a, c = .giveBack a → q.Out a)
    (hspare : (∃ a, c = .giveBack a) → ¬AllOut rb q) :
    ∃ e rb', answer c rb = some (e, rb') ∧ Honest e q ∧ Holds rb' (book e q) := by
  cases c with
  | send pvItem => exact answer_send h pvItem
  | receive => exact answer_receive h
  | giveBack a => exact answer_giveBack h (hout a rfl) (hspare ⟨a, rfl⟩)

end call

/-! ## A run of calls -/

/-- The application returns what it has. -/
def Owned (c : Call) (s : Used) : Prop :=
  ∀ a, c = .giveBack a → ∀ p ∈ s, p.2.Out a

/-- Nothing is returned while everything in a full buffer is out. -/
def Spared (c : Call) (s : Used) : Prop :=
  (∃ a, c = .giveBack a) → ∀ p ∈ s, ¬AllOut p.1 p.2

def HoldsUsed (s : Used) : Prop := ∃ rb q, s = some (rb, q) ∧ Holds rb q

theorem use_eq {c : Call} {rb rb' : Ringbuffer} {q : Account Nat Bytes}
    {e : Lending.Event Nat Bytes}
    (h : answer c rb = some (e, rb')) : use c (some (rb, q)) = some (rb', book e q) := by
  unfold use
  rw [Option.bind_some, h]
  rfl

theorem holds_use {c : Call} {s : Used} (h : HoldsUsed s) (howned : Owned c s)
    (hspare : Spared c s) : HoldsUsed (use c s) := by
  obtain ⟨rb, q, rfl, hholds⟩ := h
  obtain ⟨e, rb', hanswer, -, hholds'⟩ := answer_spec hholds c
    (fun a ha => howned a ha (rb, q) rfl) (fun hc => hspare hc (rb, q) rfl)
  exact ⟨rb', book e q, use_eq hanswer, hholds'⟩

theorem laid_create (memory : Mem) {xBufferSize : Nat} (hge : 9 ≤ xBufferSize)
    (hlt : xBufferSize < 2 ^ 31 - 3) : Laid (xRingbufferCreate memory xBufferSize) [] [] := by
  have hsize : (xRingbufferCreate memory xBufferSize).xSize = rbAlignSize xBufferSize := rfl
  have hbounds : 12 ≤ rbAlignSize xBufferSize ∧ rbAlignSize xBufferSize < 2 ^ 31 := by
    unfold rbAlignSize
    omega
  have hseat : Seat (rbAlignSize xBufferSize) 0 := by
    unfold Seat rbHeaderSize
    omega
  constructor
  · exact hbounds.1
  · exact rbAlignSize_mod xBufferSize
  · exact hbounds.2
  · show (((rbAlignSize (rbAlignSize xBufferSize / 2) : Int) - rbHeaderSize) % 2 ^ 32).toNat = _
    rw [hsize]
    unfold rbAlignSize rbHeaderSize at *
    omega
  · exact hseat
  · exact hseat
  · exact hseat
  · rfl
  · rfl
  · rfl
  · exact Nat.zero_le _
  · show false = true ↔ 0 = (xRingbufferCreate memory xBufferSize).xSize
    rw [hsize]
    constructor
    · intro h
      exact absurd h Bool.false_ne_true
    · intro h
      omega
  · exact fun x hx => absurd hx List.not_mem_nil
  · exact fun x hx => absurd hx List.not_mem_nil
  · exact fun x hx => absurd hx List.not_mem_nil
  · exact fun x hx => absurd hx List.not_mem_nil
  · exact fun x hx => absurd hx List.not_mem_nil
  · exact fun x hx => absurd hx (Option.not_mem_none x)
  · rfl

theorem holds_start (memory : Mem) {xBufferSize : Nat} (hge : 9 ≤ xBufferSize)
    (hlt : xBufferSize < 2 ^ 31 - 3) : HoldsUsed (.start memory xBufferSize) :=
  ⟨_, _, rfl, [], [], laid_create memory hge hlt, rfl, rfl⟩

/-- What is lent is still in the storage. -/
theorem bytesAt_lent {rb : Ringbuffer} {q : Account Nat Bytes} (h : Holds rb q)
    {p : Nat × Bytes} (hp : p ∈ q.lent) : bytesAt rb.storage p.1 p.2.length = p.2 := by
  obtain ⟨out, due, hlaid, hlent, -⟩ := h
  rw [hlent] at hp
  obtain ⟨x, hx, -, rfl⟩ := mem_lentOf.mp hp
  exact (hlaid.stored x (List.mem_append_left due hx)).data

/-- What a call answers in a run. -/
def event (c : Call) (s : Used) : Option (Lending.Event Nat Bytes) :=
  s.bind fun p => (answer c p.1).map Prod.fst

theorem event_eq {c : Call} {rb rb' : Ringbuffer} {q : Account Nat Bytes}
    {e : Lending.Event Nat Bytes}
    (h : answer c rb = some (e, rb')) : event c (some (rb, q)) = some e := by
  unfold event
  rw [Option.bind_some, h]
  rfl

/-- The run of the buffer beside the run of the account. -/
theorem holds_after {rb : Ringbuffer} {q : Account Nat Bytes} {calls : List Call}
    (h : Holds rb q) (howned : Along use Owned (some (rb, q)) calls)
    (hspare : Along use Spared (some (rb, q)) calls) :
    ∃ rb', after use (some (rb, q)) calls =
        some (rb', after book q (outputs use event (some (rb, q)) calls)) ∧
      Holds rb' (after book q (outputs use event (some (rb, q)) calls)) ∧
      Along book Honest q (outputs use event (some (rb, q)) calls) := by
  induction calls generalizing rb q with
  | nil => exact ⟨rb, rfl, h, trivial⟩
  | cons c calls ih =>
    rw [along_cons] at howned hspare
    obtain ⟨e, rb1, hanswer, hhonest, hholds⟩ := answer_spec h c
      (fun a ha => howned.1 a ha (rb, q) rfl) (fun hc => hspare.1 hc (rb, q) rfl)
    rw [use_eq hanswer] at howned hspare
    have hevents : outputs use event (some (rb, q)) (c :: calls) =
        e :: outputs use event (some (rb1, book e q)) calls := by
      rw [outputs_cons, event_eq hanswer, use_eq hanswer]
      rfl
    rw [hevents, after_cons, after_cons, use_eq hanswer]
    obtain ⟨rb', hafter, hholds', halong⟩ := ih hholds howned.2 hspare.2
    exact ⟨rb', hafter, hholds', hhonest, halong⟩

/-- **The ring buffer is a first-in first-out queue.** No check of the code fails and every loop
comes to its end; what was received, followed by what waits, is what was accepted, in order; and
what the application has not returned is in the storage as it was sent. -/
theorem ringbuffer_is_queue (memory : Mem) {xBufferSize : Nat} (hge : 9 ≤ xBufferSize)
    (hlt : xBufferSize < 2 ^ 31 - 3) (calls : List Call)
    (howned : Along use Owned (.start memory xBufferSize) calls)
    (hspare : Along use Spared (.start memory xBufferSize) calls) :
    ∃ rb q, after use (.start memory xBufferSize) calls = some (rb, q) ∧
      Along book Honest .empty (outputs use event (.start memory xBufferSize) calls) ∧
      takens (outputs use event (.start memory xBufferSize) calls) ++ q.waiting =
        puts (outputs use event (.start memory xBufferSize) calls) ∧
      rb.xItemsWaiting = q.waiting.length ∧
      ∀ p ∈ q.lent, bytesAt rb.storage p.1 p.2.length = p.2 := by
  have hstart : Holds (xRingbufferCreate memory xBufferSize) .empty :=
    ⟨[], [], laid_create memory hge hlt, rfl, rfl⟩
  obtain ⟨rb, hafter, hholds, halong⟩ := holds_after hstart howned hspare
  refine ⟨rb, _, hafter, halong, taken_append_waiting halong, ?_, fun p hp =>
    bytesAt_lent hholds hp⟩
  obtain ⟨out, due, hlaid, -, hwaiting⟩ := hholds
  rw [hlaid.waiting, hwaiting, List.length_map]

/-- One item through a small buffer. -/
def oneThrough : List Call := [.send [7], .receive, .giveBack 8]

theorem oneThrough_owned : Along use Owned (.start ⟨fun _ => 0⟩ 64) oneThrough ∧
    Along use Spared (.start ⟨fun _ => 0⟩ 64) oneThrough := by
  have heval : (use .receive (use (.send [7]) (.start ⟨fun _ => 0⟩ 64))).map Prod.snd =
      some ⟨[(8, [7])], []⟩ := by decide +kernel
  have haccount : ∀ p ∈ use .receive (use (.send [7]) (.start ⟨fun _ => 0⟩ 64)),
      p.2 = ⟨[(8, [7])], []⟩ := by
    intro p hp
    rw [Option.mem_def.mp hp] at heval
    exact Option.some.inj heval
  constructor
  · refine ⟨?_, ?_, ?_, trivial⟩
    · intro a ha
      cases ha
    · intro a ha
      cases ha
    · intro a ha p hp
      cases ha
      rw [haccount p hp]
      exact ⟨[7], List.mem_cons_self⟩
  · refine ⟨?_, ?_, ?_, trivial⟩
    · intro hgive
      obtain ⟨a, ha⟩ := hgive
      cases ha
    · intro hgive
      obtain ⟨a, ha⟩ := hgive
      cases ha
    · intro _ p hp hall
      have htwo := hall.2.2
      rw [haccount p hp] at htwo
      exact absurd htwo (by decide)

theorem ringbuffer_is_queue_witness :
    ∃ rb q, after use (.start ⟨fun _ => 0⟩ 64) oneThrough = some (rb, q) ∧
      Along book Honest .empty (outputs use event (.start ⟨fun _ => 0⟩ 64) oneThrough) ∧
      takens (outputs use event (.start ⟨fun _ => 0⟩ 64) oneThrough) ++ q.waiting =
        puts (outputs use event (.start ⟨fun _ => 0⟩ 64) oneThrough) ∧
      rb.xItemsWaiting = q.waiting.length ∧
      ∀ p ∈ q.lent, bytesAt rb.storage p.1 p.2.length = p.2 :=
  ringbuffer_is_queue ⟨fun _ => 0⟩ (by decide) (by decide) oneThrough oneThrough_owned.1
    oneThrough_owned.2

/-! ## The largest item -/

section largest

variable {rb rb' : Ringbuffer}

theorem wrapAround_max (rb : Ringbuffer) (n : Nat) :
    (wrapAround rb n).xMaxItemSize = rb.xMaxItemSize := by
  unfold wrapAround
  split <;> rfl

theorem sendItemDone_max {p : Nat} (h : prvSendItemDoneNoSplit rb p = some rb') :
    rb'.xMaxItemSize = rb.xMaxItemSize := by
  unfold prvSendItemDoneNoSplit at h
  dsimp only at h
  split at h
  · split at h
    · injection h with h
      rw [← h]
    · cases h
  · cases h

theorem copyItem_max {item : Bytes} (h : prvCopyItemNoSplit rb item = some rb') :
    rb'.xMaxItemSize = rb.xMaxItemSize := by
  unfold prvCopyItemNoSplit at h
  split at h
  · rename_i itemAddr rb1 hacquire
    rw [sendItemDone_max h]
    unfold prvAcquireItemNoSplit at hacquire
    dsimp only at hacquire
    split at hacquire
    · injection hacquire with hpair
      injection hpair with _ hrb
      rw [← hrb]
      exact wrapAround_max rb _
    · cases hacquire
  · cases h

theorem getItem_max {item len : Nat} (h : prvGetItemDefault rb = some (item, len, rb')) :
    rb'.xMaxItemSize = rb.xMaxItemSize := by
  unfold prvGetItemDefault at h
  dsimp only at h
  obtain ⟨-, hget⟩ := Option.ite_none_right_eq_some.mp h
  obtain ⟨-, hrb⟩ := Option.ite_none_right_eq_some.mp hget
  injection hrb with hpair
  injection hpair with _ hpair
  injection hpair with _ hrb
  rw [← hrb]

/-- No call changes how large an item may be. -/
theorem answer_max {c : Call} {e : Lending.Event Nat Bytes} (h : answer c rb = some (e, rb')) :
    rb'.xMaxItemSize = rb.xMaxItemSize := by
  cases c with
  | send pvItem =>
    have hsend : ∀ {sent rb1}, xRingbufferSend rb pvItem = some (sent, rb1) →
        rb1.xMaxItemSize = rb.xMaxItemSize := by
      intro sent rb1 hsend
      unfold xRingbufferSend at hsend
      split at hsend
      · cases hsend
        rfl
      · split at hsend
        · cases hsend
        · cases hsend
          rfl
        · split at hsend
          · cases hsend
          · cases hsend
            exact copyItem_max (by assumption)
    unfold answer at h
    dsimp only at h
    split at h
    · rename_i rb1 heq
      cases h
      exact hsend heq
    · rename_i rb1 heq
      cases h
      exact hsend heq
    · cases h
  | receive =>
    unfold answer xRingbufferReceive at h
    dsimp only at h
    split at h
    · rename_i item len rb1 heq
      cases h
      split at heq
      · split at heq
        · cases heq
        · rename_i hget
          cases heq
          exact getItem_max hget
      · cases heq
    · rename_i rb1 heq
      cases h
      split at heq
      · split at heq <;> cases heq
      · cases heq
        rfl
    · cases h
  | giveBack pvItem =>
    obtain ⟨rb1, hreturn, heq⟩ := Option.map_eq_some_iff.mp h
    cases heq
    unfold vRingbufferReturnItem prvReturnItemDefault at hreturn
    dsimp only at hreturn
    split at hreturn
    · split at hreturn
      · cases hreturn
        rfl
      · cases hreturn
    · cases hreturn

end largest

/-- How large an item may be. -/
def Limit (n : Nat) (s : Used) : Prop := ∀ p ∈ s, p.1.xMaxItemSize = n

theorem limit_use {n : Nat} (c : Call) (s : Used) (h : Limit n s) : Limit n (use c s) := by
  intro p hp
  obtain ⟨r, hr, hanswer⟩ := Option.bind_eq_some_iff.mp hp
  obtain ⟨⟨e, rb'⟩, hcall, heq⟩ := Option.map_eq_some_iff.mp hanswer
  rw [← heq, answer_max hcall]
  exact h r hr

/-- A buffer with nothing in it takes what is not too large. -/
theorem send_of_empty {rb : Ringbuffer} {q : Account Nat Bytes} (h : Holds rb q)
    (hlent : q.lent = []) (hwaiting : q.waiting = []) {item : Bytes} :
    event (.send item) (some (rb, q)) = some (.put item) ↔ item.length ≤ rb.xMaxItemSize := by
  obtain ⟨out, due, hlaid, hout, hdue⟩ := h
  -- What is first out is out: nothing lent means nothing out.
  have hnone : out = [] := by
    cases out with
    | nil => rfl
    | cons x xs =>
      have hstate : x.state = .lent := hlaid.out_head x rfl
      rw [lentOf_cons_of_lent xs hstate, hlent] at hout
      cases hout
  have hempty : due = [] := by
    rw [hwaiting] at hdue
    exact List.map_eq_nil_iff.mp hdue.symm
  obtain ⟨sent, rb', hsend, -, hrefused, hput⟩ := xRingbufferSend_spec hlaid item
  have hanswer : answer (.send item) rb =
      some (if sent then .put item else .refuse item, rb') := by
    unfold answer
    dsimp only
    rw [hsend]
    cases sent <;> rfl
  rw [event_eq hanswer]
  cases sent with
  | true => exact iff_of_true rfl (hput rfl).1
  | false =>
    apply iff_of_false
    · intro heq
      cases heq
    · intro hle
      exact (hrefused rfl).2 hle ⟨hnone, hempty⟩

theorem holds_of_empty (memory : Mem) {xBufferSize : Nat} (hge : 9 ≤ xBufferSize)
    (hlt : xBufferSize < 2 ^ 31 - 3) {calls : List Call}
    (howned : Along use Owned (.start memory xBufferSize) calls)
    (hspare : Along use Spared (.start memory xBufferSize) calls)
    (hempty : ∀ p ∈ after use (.start memory xBufferSize) calls,
      p.2.lent = [] ∧ p.2.waiting = []) :
    ∃ rb q, after use (.start memory xBufferSize) calls = some (rb, q) ∧ Holds rb q ∧
      q.lent = [] ∧ q.waiting = [] ∧
      rb.xMaxItemSize = (xRingbufferCreate memory xBufferSize).xMaxItemSize := by
  have hstart : Holds (xRingbufferCreate memory xBufferSize) .empty :=
    ⟨[], [], laid_create memory hge hlt, rfl, rfl⟩
  have hlimit : Limit (xRingbufferCreate memory xBufferSize).xMaxItemSize
      (.start memory xBufferSize) := by
    intro p hp
    cases hp
    rfl
  obtain ⟨rb, hafter, hholds, -⟩ := holds_after hstart howned hspare
  have hafter' : after use (.start memory xBufferSize) calls = some (rb, _) := hafter
  have hnothing := hempty _ hafter'
  exact ⟨rb, _, hafter', hholds, hnothing.1, hnothing.2, after_invariant limit_use hlimit _ hafter'⟩

/-- **An empty buffer keeps its word.** Wherever a run has left the pointers: if nothing waits and
nothing is out, an item is taken exactly if it is not longer than `xMaxItemSize`. -/
theorem empty_takes_iff (memory : Mem) {xBufferSize : Nat} (hge : 9 ≤ xBufferSize)
    (hlt : xBufferSize < 2 ^ 31 - 3) (calls : List Call)
    (howned : Along use Owned (.start memory xBufferSize) calls)
    (hspare : Along use Spared (.start memory xBufferSize) calls)
    (hempty : ∀ p ∈ after use (.start memory xBufferSize) calls,
      p.2.lent = [] ∧ p.2.waiting = []) (item : Bytes) :
    event (.send item) (after use (.start memory xBufferSize) calls) = some (.put item) ↔
      item.length ≤ (xRingbufferCreate memory xBufferSize).xMaxItemSize := by
  obtain ⟨rb, q, hafter, hholds, hlent, hwaiting, hmax⟩ :=
    holds_of_empty memory hge hlt howned hspare hempty
  rw [hafter, send_of_empty hholds hlent hwaiting, hmax]

theorem empty_takes_iff_oneThrough :
    event (.send (List.replicate 25 1)) (after use (.start ⟨fun _ => 0⟩ 64) oneThrough) =
        some (.put (List.replicate 25 1)) ↔
      (List.replicate 25 (1 : UInt8)).length ≤
        (xRingbufferCreate ⟨fun _ => 0⟩ 64).xMaxItemSize := by
  apply empty_takes_iff ⟨fun _ => 0⟩ (by decide) (by decide) oneThrough oneThrough_owned.1
    oneThrough_owned.2
  intro p hp
  have heval : (after use (.start ⟨fun _ => 0⟩ 64) oneThrough).map Prod.snd = some ⟨[], []⟩ := by
    decide +kernel
  rw [Option.mem_def.mp hp] at heval
  rw [Option.some.inj heval]
  exact ⟨rfl, rfl⟩

/-! ## What the full buffer forgets -/

/-- A buffer whose pointers say that it is empty is. -/
def Accounted (s : Used) : Prop :=
  ∃ rb q, s = some (rb, q) ∧
    (rb.pucAcquire = rb.pucFree → rb.full = false → q.lent = [] ∧ q.waiting = [])

theorem accounted_of_holds {s : Used} (h : HoldsUsed s) : Accounted s := by
  obtain ⟨rb, q, rfl, out, due, hlaid, hlent, hwaiting⟩ := h
  refine ⟨rb, q, rfl, ?_⟩
  intro hsame hfull
  rcases hlaid.acquire_eq_free.mp hsame with hnil | hset
  · obtain ⟨rfl, rfl⟩ := hnil
    exact ⟨hlent, hwaiting⟩
  · rw [hfull] at hset
    exact absurd hset Bool.false_ne_true

/-- Returning one of several items out of a full buffer makes it look empty. -/
theorem not_accounted_of_allOut {rb : Ringbuffer} {q : Account Nat Bytes} (h : Holds rb q)
    {a : Nat} (hout : q.Out a) (hall : AllOut rb q) :
    ¬Accounted (use (.giveBack a) (some (rb, q))) := by
  obtain ⟨out, due, hlaid, hlent, hwaiting⟩ := h
  obtain ⟨hfull, hnone, htwo⟩ := hall
  obtain ⟨l, x, r, rfl, hstate, rfl⟩ := out_of_lent hlent hout
  rw [hwaiting, List.map_eq_nil_iff] at hnone
  subst hnone
  obtain ⟨rb', hreturn, hnotfull, hsame⟩ := prvReturnItemDefault_all_out hlaid hstate hfull
  have hanswer : answer (.giveBack x.address) rb = some (.giveBack x.address, rb') := by
    unfold answer
    dsimp only
    rw [hreturn]
    rfl
  rw [use_eq hanswer]
  intro hacc
  obtain ⟨_, _, heq, hempty⟩ := hacc
  cases heq
  have hnil : q.lent.filter (fun p => p.1 ≠ x.address) = [] := (hempty hsame hnotfull).1
  rw [hlent] at htwo hnil
  obtain ⟨y, hy, hylent⟩ := (two_le_lentOf hstate).mp htwo
  rw [← lentOf_release hlaid hstate, lentOf_settle] at hnil
  have hmem : (y.address, y.data) ∈ lentOf (l ++ x.release :: r) := by
    refine mem_lentOf.mpr ⟨y, ?_, hylent, rfl⟩
    rw [List.mem_append] at hy ⊢
    rw [List.mem_cons]
    tauto
  rw [hnil] at hmem
  exact List.not_mem_nil hmem

/-- **When the buffer loses count.** It looks empty only when it is, in every state of a run,
exactly if no item is returned while a full buffer has given out everything, more than one
item. -/
theorem accounted_iff (memory : Mem) {xBufferSize : Nat} (hge : 9 ≤ xBufferSize)
    (hlt : xBufferSize < 2 ^ 31 - 3) (calls : List Call)
    (howned : Along use Owned (.start memory xBufferSize) calls) :
    Always use Accounted (.start memory xBufferSize) calls ↔
      Along use Spared (.start memory xBufferSize) calls := by
  have hgood : ∀ s, HoldsUsed s → Accounted s := fun s => accounted_of_holds
  have hkeep : ∀ c s, HoldsUsed s → Owned c s → Spared c s → HoldsUsed (use c s) :=
    fun c s => holds_use
  have hbreak : ∀ c s, HoldsUsed s → Owned c s → Accounted (use c s) → Spared c s := by
    intro c s hholds howned hacc hgive p hp hall
    obtain ⟨a, rfl⟩ := hgive
    obtain ⟨rb, q, rfl, hholds⟩ := hholds
    obtain rfl : (rb, q) = p := Option.some.inj hp
    exact not_accounted_of_allOut hholds (howned a rfl _ rfl) hall hacc
  exact always_iff_guard hgood hkeep hbreak (holds_start memory hge hlt) howned

/-- Two items of half the storage each, both out, and one of them returned. -/
def bothOut : List Call :=
  [.send (List.replicate 24 1), .send (List.replicate 24 2), .receive, .receive, .giveBack 8]

theorem accounted_iff_bothOut : Always use Accounted (.start ⟨fun _ => 0⟩ 64) bothOut ↔
    Along use Spared (.start ⟨fun _ => 0⟩ 64) bothOut := by
  have heval : (after use (.start ⟨fun _ => 0⟩ 64) (bothOut.take 4)).map Prod.snd =
      some ⟨[(8, List.replicate 24 1), (40, List.replicate 24 2)], []⟩ := by decide +kernel
  apply accounted_iff ⟨fun _ => 0⟩ (by decide) (by decide)
  refine ⟨?_, ?_, ?_, ?_, ?_, trivial⟩
  · intro a ha
    cases ha
  · intro a ha
    cases ha
  · intro a ha
    cases ha
  · intro a ha
    cases ha
  · intro a ha p hp
    cases ha
    have hp' : after use (.start ⟨fun _ => 0⟩ 64) (bothOut.take 4) = some p := hp
    rw [hp'] at heval
    rw [Option.some.inj heval]
    exact ⟨List.replicate 24 1, List.mem_cons_self⟩

end Lighting.Queue
