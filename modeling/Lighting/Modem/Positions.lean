import Lighting.Lib.Marks
import Lighting.Model.UartLines

/-!
# The positions of newlines in what is received

What is received and not read is the rest of an item, what is in the ring buffer, and what waits in
`rx_data_buf` for room. A position is right if it is one of a newline there, and the queue is right
if its positions are, and go up. Reading keeps it right; what a call of the driver does to the bytes
is one lemma for each (`readTurn_spec`, `flushTurn_spec`, `intr_content`), and what the interrupt
handler stores is `seen`.
-/

set_option autoImplicit false

namespace Lighting

open CString Marks

/-! ## Positions in a text -/

/-- Some newlines of a text are marked, and the queue has their places. -/
structure MarkedBy (m : List (UInt8 × Bool)) (s : Bytes) (positions : List Int) : Prop where
  bytes : m.map Prod.fst = s
  queue : places 0 m = positions
  newline : ∀ b, (b, true) ∈ m → b = lfByte

/-- The positions are those of newlines, and go up. -/
def RightIn (s : Bytes) (positions : List Int) : Prop := ∃ m, MarkedBy m s positions

section texts

variable {m : List (UInt8 × Bool)} {s : Bytes} {ps : List Int}

theorem MarkedBy.length_eq (h : MarkedBy m s ps) : m.length = s.length := by
  rw [← h.bytes, List.length_map]

theorem rightIn_nil : RightIn [] [] := by
  refine ⟨[], rfl, rfl, ?_⟩
  intro b hb
  cases hb

theorem rightIn_nil_iff : RightIn [] ps ↔ ps = [] := by
  constructor
  · rintro ⟨m, hm⟩
    rw [← hm.queue, List.map_eq_nil_iff.mp hm.bytes]
    rfl
  · intro hnone
    rw [hnone]
    exact rightIn_nil

theorem RightIn.bounds {p : Int} (h : RightIn s ps) (hp : p ∈ ps) : 0 ≤ p ∧ p < s.length := by
  obtain ⟨m, h⟩ := h
  rw [← h.queue] at hp
  have hplace := mem_places hp
  rw [h.length_eq, zero_add] at hplace
  exact hplace

/-- What is taken from the front. -/
theorem RightIn.shorten {front : Bytes} (h : RightIn (front ++ s) ps) :
    RightIn s (uartPatternQueueUpdate front.length ps) := by
  obtain ⟨m, h⟩ := h
  refine ⟨m.drop front.length, ?_, ?_, ?_⟩
  · rw [List.map_drop, h.bytes, List.drop_left]
  · show _ = lower (front.length : ℤ) ps
    have hle : front.length ≤ m.length := by
      rw [h.length_eq, List.length_append]
      omega
    rw [← h.queue, lower_places m hle]
  · intro b hb
    exact h.newline b (List.mem_of_mem_drop hb)

/-- What comes in without a mark. -/
theorem RightIn.append (h : RightIn s ps) (s' : Bytes) : RightIn (s ++ s') ps := by
  obtain ⟨m, h⟩ := h
  refine ⟨m ++ unmarked s', ?_, ?_, ?_⟩
  · simp [h.bytes]
  · rw [places_append, places_unmarked, List.append_nil]
    exact h.queue
  · intro b hb
    rcases List.mem_append.mp hb with hb | hb
    · exact h.newline b hb
    · exact absurd hb (notMem_unmarked b s')

/-- What comes in with a mark on one of its newlines. -/
theorem RightIn.append_marked (h : RightIn s ps) (front back : Bytes) :
    RightIn (s ++ (front ++ lfByte :: back)) (ps ++ [(s.length + front.length : ℤ)]) := by
  obtain ⟨m, h⟩ := h
  refine ⟨m ++ unmarked front ++ (lfByte, true) :: unmarked back, ?_, ?_, ?_⟩
  · simp [h.bytes]
  · have hplace : ((m ++ unmarked front).length : ℤ) = s.length + front.length := by
      rw [List.length_append, length_unmarked, h.length_eq, Nat.cast_add]
    rw [places_append, places_append, places_unmarked, List.append_nil, zero_add, hplace, h.queue]
    show ps ++ (_ :: places _ (unmarked back)) = _
    rw [places_unmarked]
  · intro b hb
    rcases List.mem_append.mp hb with hb | hb
    · rcases List.mem_append.mp hb with hb | hb
      · exact h.newline b hb
      · exact absurd hb (notMem_unmarked b front)
    · rcases List.mem_cons.mp hb with hb | hb
      · exact (Prod.mk.inj hb).1
      · exact absurd hb (notMem_unmarked b back)

/-- The newline at the end gets a mark later. -/
theorem MarkedBy.mark_last {init : List (UInt8 × Bool)}
    (h : MarkedBy (init ++ [(lfByte, false)]) s ps) :
    MarkedBy (init ++ [(lfByte, true)]) s (ps ++ [(s.length - 1 : ℤ)]) := by
  have hlength := h.length_eq
  rw [List.length_append, List.length_singleton] at hlength
  refine ⟨?_, ?_, ?_⟩
  · rw [← h.bytes]
    simp
  · have hplaces := h.queue
    rw [places_append, places_singleton] at hplaces ⊢
    rw [if_neg Bool.false_ne_true, List.append_nil] at hplaces
    rw [if_pos rfl, hplaces]
    congr 2
    omega
  · intro b hb
    rcases List.mem_append.mp hb with hb | hb
    · exact h.newline b (List.mem_append_left _ hb)
    · exact (Prod.mk.inj (List.mem_singleton.mp hb)).1

/-- **The last byte as a position** is right exactly if it is a newline without one. -/
theorem rightIn_last_iff (h : RightIn s ps) : RightIn s (ps ++ [(s.length - 1 : ℤ)]) ↔
    s.getLast? = some lfByte ∧ ps.getLast? ≠ some (s.length - 1 : ℤ) := by
  constructor
  · rintro ⟨m, hm⟩
    have hlength := hm.length_eq
    have hqueue := hm.queue
    cases m using List.reverseRecOn with
    | nil => simp [places] at hqueue
    | append_singleton init x =>
      obtain ⟨b, marked⟩ := x
      have hlast : ((init.length : ℕ) : ℤ) = s.length - 1 := by
        rw [List.length_append, List.length_singleton] at hlength
        omega
      rw [places_append, places_singleton, zero_add, hlast] at hqueue
      have hnot : (s.length - 1 : ℤ) ∉ places 0 init := by
        intro hmem
        have hlt := (mem_places hmem).2
        omega
      cases marked with
      | false =>
        rw [if_neg Bool.false_ne_true, List.append_nil] at hqueue
        rw [hqueue] at hnot
        exact absurd (List.mem_append_right _ List.mem_cons_self) hnot
      | true =>
        rw [if_pos rfl] at hqueue
        have hpositions : places 0 init = ps := List.append_cancel_right hqueue
        have hb : b = lfByte := hm.newline b (List.mem_append_right _ List.mem_cons_self)
        refine ⟨?_, ?_⟩
        · rw [← hm.bytes, hb]
          simp
        · intro hgetLast
          rw [hpositions] at hnot
          exact hnot (List.mem_of_getLast? hgetLast)
  · rintro ⟨hlast, hpositions⟩
    obtain ⟨m, hm⟩ := h
    have hlength := hm.length_eq
    obtain ⟨bytes, hbytes⟩ := List.getLast?_eq_some_iff.mp hlast
    obtain ⟨init, last, rfl, hinit, hone⟩ := List.map_eq_append_iff.mp (hm.bytes.trans hbytes)
    obtain ⟨x, rfl, hx⟩ := List.map_eq_singleton_iff.mp hone
    obtain ⟨b, marked⟩ := x
    have hb : b = lfByte := hx
    subst hb
    cases marked with
    | false => exact ⟨_, hm.mark_last⟩
    | true =>
      refine absurd ?_ hpositions
      have hqueue := hm.queue
      rw [places_append, places_singleton, if_pos rfl, zero_add] at hqueue
      rw [List.length_append, List.length_singleton] at hlength
      rw [← hqueue, List.getLast?_concat]
      congr 1
      omega

/-- A position behind the text is wrong. -/
theorem not_rightIn_end : ¬RightIn s (ps ++ [(s.length : ℤ)]) := by
  intro h
  have hlt := (h.bounds (List.mem_append_right _ List.mem_cons_self)).2
  omega

/-- The queue behind a text of which nothing is left. -/
theorem RightIn.drop_iff {back : Bytes} (h : RightIn (s ++ back) ps) :
    RightIn [] (uartPatternQueueUpdate s.length ps) ↔ ∀ p ∈ ps, p < (s.length : ℤ) := by
  obtain ⟨m, hm⟩ := h
  have hle : s.length ≤ m.length := by
    rw [hm.length_eq, List.length_append]
    omega
  have hlower : uartPatternQueueUpdate s.length ps = places 0 (m.drop s.length) := by
    show lower (s.length : ℤ) ps = _
    rw [← hm.queue, lower_places m hle]
  rw [rightIn_nil_iff, hlower, ← hm.queue]
  exact places_drop_eq_nil_iff hle

/-- The first position is one of a newline, and is taken out of the queue. -/
theorem RightIn.pop {pos : Int} {rest : List Int} (h : RightIn s (pos :: rest)) :
    RightIn s rest ∧ ∃ front back, s = front ++ lfByte :: back ∧ pos = front.length := by
  obtain ⟨m, h⟩ := h
  obtain ⟨front, b, back, rfl, hfront, hpos, hrest⟩ := places_cons h.queue
  have hb : b = lfByte := h.newline b (List.mem_append_right _ List.mem_cons_self)
  subst hb
  rw [zero_add] at hpos
  refine ⟨⟨front ++ (lfByte, false) :: back, ?_, ?_, ?_⟩,
    front.map Prod.fst, back.map Prod.fst, ?_, ?_⟩
  · rw [← h.bytes]
    simp
  · rw [places_append, hfront, hrest, hpos, zero_add]
    rfl
  · intro b hb
    rcases List.mem_append.mp hb with hb | hb
    · exact h.newline b (List.mem_append_left _ hb)
    · rcases List.mem_cons.mp hb with hb | hb
      · exact absurd (Prod.mk.inj hb).2 Bool.noConfusion
      · exact h.newline b (List.mem_append_right _ (List.mem_cons_of_mem _ hb))
  · rw [← h.bytes]
    simp
  · rw [hpos, List.length_map]

end texts

/-! ## The driver -/

namespace UartObj

/-- What waits for room. -/
def stashed (u : UartObj) : Bytes := if u.rxBufferFullFlg then u.stash else []

/-- What is received and not read. -/
def content (u : UartObj) : Bytes := u.rest ++ u.ring ++ u.stashed

/-- The positions are right. -/
def Right (u : UartObj) : Prop := RightIn u.content u.positions

/-- What the driver says of itself holds. -/
structure Sound (u : UartObj) : Prop where
  count : u.rxBufferedLen = (u.rest ++ u.ring).length
  head : u.held = 0 ↔ u.rest = []
  place : u.place < rxBufferSize
  stash : u.stash.length ≤ uartFifoLen

/-- Bytes are taken from the front. -/
structure Takes (u : UartObj) (bytes : Bytes) (v : UartObj) : Prop where
  content : u.content = bytes ++ v.content
  right : u.Right → v.Right
  sound : v.Sound

variable {u v w : UartObj} {bytes : Bytes} {length : Nat}

theorem Takes.refl (h : u.Sound) : Takes u [] u := ⟨rfl, id, h⟩

theorem Takes.trans {bytes' : Bytes} (h : Takes u bytes v) (h' : Takes v bytes' w) :
    Takes u (bytes ++ bytes') w := by
  refine ⟨?_, fun hright => h'.right (h.right hright), h'.sound⟩
  rw [h.content, h'.content, List.append_assoc]

theorem takes_of_eq (hcontent : v.content = u.content) (hpositions : v.positions = u.positions)
    (hsound : v.Sound) : Takes u [] v := by
  refine ⟨hcontent.symm, ?_, hsound⟩
  unfold Right
  rw [hcontent, hpositions]
  exact id

theorem takes_of_shorten (hcontent : u.content = bytes ++ v.content)
    (hpositions : v.positions = uartPatternQueueUpdate bytes.length u.positions)
    (hsound : v.Sound) : Takes u bytes v := by
  refine ⟨hcontent, ?_, hsound⟩
  unfold Right
  rw [hcontent, hpositions]
  exact RightIn.shorten

/-- What waits goes behind what is in the ring buffer, and nothing waits for an empty one. -/
theorem checkBufFull_spec (h : u.Sound) : Takes u [] (uartCheckBufFull u).2 ∧
    ((uartCheckBufFull u).1 = false →
      (uartCheckBufFull u).2 = u ∧ (u.rest = [] → u.ring = [] → u.rxBufferFullFlg = false)) := by
  unfold uartCheckBufFull xRingbufferSendByteBuf
  by_cases hfull : u.rxBufferFullFlg = true
  · rw [if_pos hfull]
    by_cases hfits : u.Fits u.stash
    · rw [if_pos hfits]
      refine ⟨takes_of_eq ?_ rfl ⟨?_, h.head, h.place, h.stash⟩, fun hno => Bool.noConfusion hno⟩
      · simp [content, stashed, hfull]
      · have hcount := h.count
        simp only [List.length_append] at hcount ⊢
        omega
    · rw [if_neg hfits]
      refine ⟨Takes.refl h, fun _ => ⟨rfl, fun hrest hring => absurd (.inr ?_) hfits⟩⟩
      have hstash := h.stash
      rw [h.head.mpr hrest, hring, List.length_nil]
      unfold uartFifoLen at hstash
      unfold rxBufferSize
      omega
  · rw [if_neg hfull]
    exact ⟨Takes.refl h, fun _ => ⟨rfl, fun _ _ => Bool.eq_false_of_not_eq_true hfull⟩⟩

/-- A part of the item at hand. -/
theorem copy_spec (h : u.Sound) (hrest : u.rest ≠ []) (hlength : 0 < length) :
    ∃ bytes v, uartCopy length u = .got bytes v ∧ bytes ≠ [] ∧ bytes.length ≤ length ∧
      Takes u bytes v := by
  have hpos := List.length_pos_iff.mpr hrest
  have hsplit := List.take_append_drop length u.rest
  have hne : u.rest.take length ≠ [] := by
    intro hnil
    have hlen := congrArg List.length hnil
    rw [List.length_take, List.length_nil] at hlen
    omega
  refine ⟨_, _, rfl, hne, List.length_take_le _ _, ?_⟩
  have hcount := h.count
  have hheld : u.held ≠ 0 := fun hzero => hrest (h.head.mp hzero)
  have hlens := congrArg List.length hsplit
  simp only [List.length_append] at hcount hlens
  have htakes : ∀ held, (held = 0 ↔ u.rest.drop length = []) →
      Takes u (u.rest.take length)
        { u.shorten (u.rest.take length).length with
          rest := u.rest.drop length
          held := held } := by
    intro held hhead
    refine takes_of_shorten ?_ rfl ⟨?_, hhead, h.place, h.stash⟩
    · show u.rest ++ u.ring ++ u.stashed = _ ++ (_ ++ u.ring ++ u.stashed)
      rw [List.append_assoc, List.append_assoc, ← List.append_assoc (u.rest.take length), hsplit]
    · show u.rxBufferedLen - (u.rest.take length).length = (u.rest.drop length ++ u.ring).length
      rw [List.length_append]
      omega
  split
  · rename_i hdrop
    have hgone := htakes 0 ⟨fun _ => hdrop, fun _ => rfl⟩
    have hcheck := hgone.trans (checkBufFull_spec hgone.sound).1
    rw [List.append_nil] at hcheck
    exact hcheck
  · rename_i hdrop
    exact htakes u.held ⟨fun hzero => absurd hzero hheld, fun hnil => absurd hnil hdrop⟩

/-- An item of the ring buffer, or nothing if it is empty. -/
theorem receive_spec (h : u.Sound) (hrest : u.rest = []) :
    (xRingbufferReceiveByteBuf u = none ∧ u.ring = []) ∨
      ∃ item v, xRingbufferReceiveByteBuf u = some (item, v) ∧ u.ring ≠ [] ∧ item ≠ [] ∧
        Takes u [] { v with rest := item } ∧ v.rest = [] := by
  unfold xRingbufferReceiveByteBuf
  by_cases hring : u.ring = []
  · exact .inl ⟨if_pos hring, hring⟩
  · right
    have hpos := List.length_pos_iff.mpr hring
    have hplace := h.place
    have hne : u.ring.take (rxBufferSize - u.place) ≠ [] := by
      intro hnil
      have hlen := congrArg List.length hnil
      rw [List.length_take, List.length_nil] at hlen
      omega
    refine ⟨_, _, if_neg hring, hring, hne,
      takes_of_eq ?_ rfl ⟨?_, ?_, Nat.mod_lt _ (by decide), h.stash⟩, hrest⟩
    · show _ ++ _ ++ u.stashed = u.rest ++ u.ring ++ u.stashed
      rw [hrest, List.take_append_drop, List.nil_append]
    · rw [List.take_append_drop, h.count, hrest, List.nil_append]
    · show (u.ring.take _).length = 0 ↔ u.ring.take _ = []
      exact List.length_eq_zero_iff

/-- **A turn of `uart_read_bytes`** takes from the front, and finds nothing only where there is
nothing. -/
theorem readTurn_spec (h : u.Sound) (hlength : 0 < length) :
    match uartReadTurn length u with
    | .got bytes v => bytes ≠ [] ∧ bytes.length ≤ length ∧ Takes u bytes v
    | .again v => Takes u [] v
    | .nothing v => v = u ∧ u.content = [] := by
  unfold uartReadTurn
  by_cases hrest : u.rest = []
  · rw [if_pos hrest]
    rcases receive_spec h hrest with ⟨hnone, hring⟩ | ⟨item, v, hsome, -, hne, htakes, -⟩
    · rw [hnone]
      obtain ⟨htakes, hstuck⟩ := checkBufFull_spec h
      cases hcheck : uartCheckBufFull u with
      | mk moved v =>
        rw [hcheck] at htakes hstuck
        cases moved with
        | true => exact htakes
        | false =>
          obtain ⟨hsame, hempty⟩ := hstuck rfl
          refine ⟨hsame, ?_⟩
          simp [content, stashed, hrest, hring, hempty hrest hring]
    · rw [hsome]
      obtain ⟨bytes, w, hcopy, hbytes, hle, hrest⟩ :=
        copy_spec htakes.sound (u := { v with rest := item }) hne hlength
      dsimp only
      rw [hcopy]
      exact ⟨hbytes, hle, htakes.trans hrest⟩
  · rw [if_neg hrest]
    obtain ⟨bytes, v, hcopy, hspec⟩ := copy_spec h hrest hlength
    rw [hcopy]
    exact hspec

/-! ### `uart_flush_input` -/

theorem returnHead_takes (h : u.Sound) : Takes u u.rest (uartReturnHead u) ∧
    (uartReturnHead u).rest = [] ∧ (uartReturnHead u).ring = u.ring ∧
    (uartReturnHead u).stashed = u.stashed := by
  have hcount := h.count
  unfold uartReturnHead
  split
  · rename_i hzero
    have hrest := h.head.mp hzero
    rw [hrest]
    exact ⟨Takes.refl h, rfl, rfl, rfl⟩
  · refine ⟨takes_of_shorten ?_ rfl ⟨?_, iff_of_true rfl rfl, h.place, h.stash⟩, rfl, rfl, rfl⟩
    · exact List.append_assoc _ _ _
    · show u.rxBufferedLen - u.rest.length = ([] ++ u.ring).length
      rw [List.nil_append]
      rw [List.length_append] at hcount
      omega

/-- **A turn of `uart_flush_input`** takes from the front, until nothing is left. -/
theorem flushTurn_spec (h : u.Sound) :
    (∃ item v, uartFlushTurn u = (u.rest ++ item, false, v) ∧ u.ring ≠ [] ∧
        Takes u (u.rest ++ item) v) ∨
      ∃ v, uartFlushTurn u = (u.content, true, v) ∧ u.ring = [] ∧ v.content = [] ∧
        v.positions = (uartReturnHead u).positions ∧ v.Sound := by
  obtain ⟨htakes, hrest, hring, hstashed⟩ := returnHead_takes h
  unfold uartFlushTurn
  rcases receive_spec htakes.sound hrest with
    ⟨hnone, hempty⟩ | ⟨item, v, hsome, hsome', -, hitem, hv⟩
  · right
    rw [hnone]
    rw [hring] at hempty
    refine ⟨{ uartReturnHead u with
      held := 0
      rest := []
      rxBufferedLen := 0
      rxBufferFullFlg := false }, ?_, hempty, ?_, rfl, ?_⟩
    · rw [content, hempty, List.append_nil]
      rfl
    · show [] ++ (uartReturnHead u).ring ++ [] = []
      rw [hring, hempty]
      rfl
    · refine ⟨?_, iff_of_true rfl rfl, htakes.sound.place, htakes.sound.stash⟩
      show (0 : ℤ) = ([] ++ (uartReturnHead u).ring).length
      rw [hring, hempty]
      rfl
  · left
    rw [hsome]
    have hlen : v.rxBufferedLen = (item ++ v.ring).length := hitem.sound.count
    rw [List.length_append] at hlen
    have hshort : Takes { v with rest := item } item { v.shorten item.length with held := 0 } := by
      refine takes_of_shorten ?_ rfl ⟨?_, ?_, hitem.sound.place, hitem.sound.stash⟩
      · show item ++ v.ring ++ v.stashed = item ++ (v.rest ++ v.ring ++ v.stashed)
        rw [hv, List.append_assoc, List.nil_append]
      · show v.rxBufferedLen - item.length = (v.rest ++ v.ring).length
        rw [hv, List.nil_append]
        omega
      · exact iff_of_true rfl hv
    have hall := ((htakes.trans hitem).trans hshort).trans (checkBufFull_spec hshort.sound).1
    rw [List.append_nil, List.append_nil] at hall
    rw [hring] at hsome'
    exact ⟨item, _, rfl, hsome', hall⟩

/-- **The end of a flush** leaves no position, unless a newline waits for room. -/
theorem last_right_iff (h : u.Sound) (hright : u.Right) (hring : u.ring = []) :
    RightIn [] (uartReturnHead u).positions ↔
      (u.rxBufferFullFlg = true → ∀ p ∈ u.positions, p < (u.rest.length : ℤ)) := by
  have hcontent : u.content = u.rest ++ u.stashed := by
    rw [content, hring, List.append_nil]
  unfold Right at hright
  rw [hcontent] at hright
  have hdrop : RightIn [] (uartReturnHead u).positions ↔
      ∀ p ∈ u.positions, p < (u.rest.length : ℤ) := by
    unfold uartReturnHead
    split
    · rename_i hzero
      -- There is no item, and no place in front of the stash.
      rw [rightIn_nil_iff, h.head.mp hzero, List.eq_nil_iff_forall_not_mem]
      constructor
      · exact fun hnone p hp => absurd hp (hnone p)
      · intro hbelow p hp
        have hlt := hbelow p hp
        have hge := (hright.bounds hp).1
        rw [List.length_nil] at hlt
        omega
    · exact hright.drop_iff
  rw [hdrop]
  constructor
  · exact fun hbelow _ => hbelow
  · intro hwhen
    by_cases hfull : u.rxBufferFullFlg = true
    · exact hwhen hfull
    · intro p hp
      have hstashed : u.stashed = [] := if_neg hfull
      rw [hstashed, List.append_nil] at hright
      exact (hright.bounds hp).2

/-! ### The interrupt handler -/

theorem uartFindPatternFromLast_eq (fifo : Bytes) : ∀ k, uartFindPatternFromLast fifo = some k →
    ∃ front back, fifo = front ++ lfByte :: back ∧ front.length = k := by
  induction fifo with
  | nil =>
    intro k h
    cases h
  | cons b fifo ih =>
    intro k h
    unfold uartFindPatternFromLast at h
    split at h
    · rename_i j hj
      cases h
      obtain ⟨front, back, rfl, rfl⟩ := ih j hj
      exact ⟨b :: front, back, rfl, rfl⟩
    · split at h
      · rename_i hb
        cases h
        exact ⟨[], fifo, by rw [hb]; rfl, rfl⟩
      · cases h

theorem uartFindPatternFromLast_none (fifo : Bytes) :
    uartFindPatternFromLast fifo = none ↔ lfByte ∉ fifo := by
  induction fifo with
  | nil => exact iff_of_true rfl List.not_mem_nil
  | cons b fifo ih =>
    unfold uartFindPatternFromLast
    rw [List.mem_cons, not_or, ← ih]
    cases hfound : uartFindPatternFromLast fifo with
    | some k =>
      apply iff_of_false
      · exact Option.some_ne_none _
      · exact fun h => Option.some_ne_none k h.2
    | none =>
      dsimp only
      split
      · rename_i hb
        exact iff_of_false (Option.some_ne_none 0) fun h => h.1 hb.symm
      · rename_i hb
        exact iff_of_true rfl ⟨fun heq => hb heq.symm, rfl⟩

/-- The position that the handler stores. -/
def seen (fifo : RxFifo) (u : UartObj) : Option Int :=
  if fifo.bytes = [] then some (u.rxBufferedLen - 1)
  else
    match uartFindPatternFromLast fifo.bytes with
    | some k => some (u.rxBufferedLen + k)
    | none => if u.Fits fifo.bytes then none else some (u.rxBufferedLen + fifo.bytes.length)

/-- The queue with a position more, if it has a place for it. -/
def enqueued (seen : Option Int) (positions : List Int) : List Int :=
  if positions.length + 1 < patternQueueSize then positions ++ seen.toList else positions

variable {fifo : RxFifo} {detected : Bool}

/-- While something waits for room, nothing is taken out of the FIFO. -/
theorem intr_of_full (hfull : u.rxBufferFullFlg = true) : uartRxIntr fifo detected u = u :=
  if_pos hfull

@[simp] theorem enqueued_none (positions : List Int) : enqueued none positions = positions := by
  simp [enqueued]

theorem uartPatternEnqueue_eq (pos : Int) (u : UartObj) :
    uartPatternEnqueue pos u = { u with positions := enqueued (some pos) u.positions } := by
  unfold uartPatternEnqueue enqueued
  split <;> rfl

/-- The queue behind an interrupt. -/
def marked (fifo : RxFifo) (detected : Bool) (u : UartObj) : List Int :=
  enqueued (if detected then seen fifo u else none) u.positions

/-- An interrupt puts the bytes into the ring buffer, or keeps them. -/
theorem intr_eq (hfull : u.rxBufferFullFlg = false) : uartRxIntr fifo detected u =
    if u.Fits fifo.bytes then
      { u with
        ring := u.ring ++ fifo.bytes
        rxBufferedLen := u.rxBufferedLen + fifo.bytes.length
        positions := marked fifo detected u
        stash := fifo.bytes }
    else
      { u with
        positions := marked fifo detected u
        stash := fifo.bytes
        rxBufferFullFlg := true } := by
  have hsend : xRingbufferSendByteBuf fifo.bytes { u with stash := fifo.bytes } =
      if u.Fits fifo.bytes then
        some { u with stash := fifo.bytes, ring := u.ring ++ fifo.bytes }
      else none := rfl
  have hopen : ¬u.rxBufferFullFlg = true := by
    rw [hfull]
    exact Bool.false_ne_true
  unfold uartRxIntr marked seen
  rw [if_neg hopen]
  dsimp only
  rw [hsend]
  by_cases hfits : u.Fits fifo.bytes
  all_goals
    simp only [hfits, if_true, if_false, uartPatternEnqueue_eq]
    cases detected with
    | false => simp
    | true =>
      simp only [Bool.not_true, Bool.false_eq_true, if_false, if_true]
      by_cases hempty : fifo.bytes = []
      · simp only [if_pos hempty]
      · simp only [if_neg hempty]
        cases uartFindPatternFromLast fifo.bytes with
        | some k => rfl
        | none => simp

theorem intr_content (hfull : u.rxBufferFullFlg = false) :
    (uartRxIntr fifo detected u).content = u.content ++ fifo.bytes := by
  rw [intr_eq hfull]
  split
  · simp [content, stashed, hfull]
  · simp [content, stashed, hfull]

theorem intr_positions (hfull : u.rxBufferFullFlg = false) :
    (uartRxIntr fifo detected u).positions = marked fifo detected u := by
  rw [intr_eq hfull]
  split <;> rfl

theorem intr_sound (h : u.Sound) : (uartRxIntr fifo detected u).Sound := by
  by_cases hfull : u.rxBufferFullFlg = true
  · rw [intr_of_full hfull]
    exact h
  · rw [intr_eq (Bool.eq_false_of_not_eq_true hfull)]
    split
    · refine ⟨?_, h.head, h.place, fifo.fits⟩
      have hcount := h.count
      simp only [List.length_append] at hcount ⊢
      omega
    · exact ⟨h.count, h.head, h.place, fifo.fits⟩

/-- **An interrupt** keeps the positions right exactly if it stores none that is wrong: the last
byte that is no newline or has its position, or one behind the bytes that found no room. -/
theorem intr_right_iff (h : u.Sound) (hright : u.Right) (hfull : u.rxBufferFullFlg = false) :
    (uartRxIntr fifo detected u).Right ↔
      (detected = true → u.positions.length + 1 < patternQueueSize →
        (fifo.bytes = [] → u.content.getLast? = some lfByte ∧
          u.positions.getLast? ≠ some (u.content.length - 1 : ℤ)) ∧
        (fifo.bytes ≠ [] → lfByte ∉ fifo.bytes → u.Fits fifo.bytes)) := by
  have hlen : u.rxBufferedLen = u.content.length := by
    rw [h.count, content, stashed, hfull, if_neg Bool.false_ne_true, List.append_nil]
  have hplain := hright.append fifo.bytes
  show RightIn _ _ ↔ _
  rw [intr_content hfull, intr_positions hfull]
  unfold marked
  cases detected with
  | false => exact iff_of_true (by simpa using hplain) fun hno => Bool.noConfusion hno
  | true =>
    rw [if_pos rfl]
    unfold enqueued
    by_cases hroom : u.positions.length + 1 < patternQueueSize
    · rw [if_pos hroom]
      unfold seen
      rw [hlen]
      by_cases hempty : fifo.bytes = []
      · rw [if_pos hempty, hempty, List.append_nil]
        have hlast := rightIn_last_iff hright
        constructor
        · intro hmarked _ _
          exact ⟨fun _ => hlast.mp hmarked, fun hne => absurd rfl hne⟩
        · exact fun hwhen => hlast.mpr ((hwhen rfl hroom).1 rfl)
      · rw [if_neg hempty]
        cases hfound : uartFindPatternFromLast fifo.bytes with
        | some k =>
          obtain ⟨front, back, hbytes, rfl⟩ := uartFindPatternFromLast_eq fifo.bytes k hfound
          apply iff_of_true
          · rw [hbytes]
            exact hright.append_marked front back
          · refine fun _ _ => ⟨fun hnil => absurd hnil hempty, fun _ hno => ?_⟩
            rw [← uartFindPatternFromLast_none, hfound] at hno
            cases hno
        | none =>
          dsimp only
          have hno := (uartFindPatternFromLast_none fifo.bytes).mp hfound
          by_cases hfits : u.Fits fifo.bytes
          · rw [if_pos hfits]
            apply iff_of_true
            · simpa using hplain
            · exact fun _ _ => ⟨fun hnil => absurd hnil hempty, fun _ _ => hfits⟩
          · rw [if_neg hfits]
            apply iff_of_false
            · have hend : ¬RightIn (u.content ++ fifo.bytes)
                  (u.positions ++ [((u.content ++ fifo.bytes).length : ℤ)]) := not_rightIn_end
              rw [List.length_append, Nat.cast_add] at hend
              exact hend
            · exact fun hwhen => hfits ((hwhen rfl hroom).2 hempty hno)
    · rw [if_neg hroom]
      exact iff_of_true hplain fun _ hroom' => absurd hroom' hroom

end UartObj

end Lighting
