import Lighting.Gps.Accesses
import Lighting.Gps.Instant

/-!
# Where the time and the date are taken from

The chain does not look for the sentence it has found. Its first call cuts the text at a `$`
and from there on it counts non-empty pieces between commas. For the pieces to be the fields
of the `GNRMC` sentence two things have to be right: something stands before the sentence, and
so much that the name `GNRMC` is in the first piece of what follows (`Aligned`); and none of
the six fields between status and date is empty, or the date is not the tenth piece.

`rmc_fields_iff` is exact about the surroundings: what precedes the sentence, what follows it
and its other fields are given, and the chain picks the time and the date, whatever they are,
exactly if the two things are right.
-/

set_option autoImplicit false

namespace Lighting

open CString Strtok Calendar

/-- Text between two commas of a sentence. -/
def IsField (s : Bytes) : Prop := comma ∉ s ∧ dollar ∉ s

/-- What an active sentence has besides its time and date: what stands behind the seconds, and
the fields between status and date. The position is given; the rest may be empty. -/
structure RmcFields where
  fraction : Bytes
  latitude : Bytes
  northSouth : Bytes
  longitude : Bytes
  eastWest : Bytes
  speed : Bytes
  course : Bytes
  isField : ∀ s ∈ [fraction, latitude, northSouth, longitude, eastWest, speed, course], IsField s
  given : ∀ s ∈ [latitude, northSouth, longitude, eastWest], s ≠ []

/-- From the time to the date, and what follows it. -/
def RmcFields.body (f : RmcFields) (time date post : Bytes) : Bytes :=
  time ++ comma :: ([letterA] ++ comma :: (f.latitude ++ comma :: (f.northSouth ++ comma ::
    (f.longitude ++ comma :: (f.eastWest ++ comma :: (f.speed ++ comma :: (f.course ++ comma ::
      (date ++ comma :: post))))))))

/-- A text with an active `GNRMC` sentence. What follows the date, `post`, is the rest of the
sentence and of the text. -/
def rmcText (pre : Bytes) (f : RmcFields) (time date post : Bytes) : Bytes :=
  pre ++ dollar :: rmcKey ++ comma :: f.body time date post

/-- The name of the sentence is in the first piece between commas the chain looks at. -/
def Aligned (pre : Bytes) : Prop :=
  (tokens comma (behind dollar (pre ++ dollar :: rmcKey))).length = 1

/-! ## The fields of a time -/

section digits

theorem field_isField : ∀ n < 100, IsField (SentenceTime.field n) := by
  unfold IsField
  decide

variable (t : SentenceTime)

/-- The time with what stands behind its seconds. -/
def RmcFields.time (f : RmcFields) : Bytes := t.timeField f.fraction

theorem RmcFields.time_isField (f : RmcFields) : IsField (f.time t) := by
  have hhour := field_isField t.hour (Nat.lt_trans t.hour_lt (by decide))
  have hminute := field_isField t.minute (Nat.lt_trans t.minute_lt (by decide))
  have hsecond := field_isField t.second (Nat.lt_trans t.second_lt (by decide))
  have hfraction := f.isField f.fraction List.mem_cons_self
  simp only [IsField, RmcFields.time, SentenceTime.timeField, List.mem_append, not_or] at *
  tauto

theorem dateField_isField : IsField t.dateField := by
  have hbound := t.dateField_lt
  have hday := field_isField _ hbound.1
  have hmonth := field_isField _ hbound.2.1
  have hyear := field_isField _ hbound.2.2
  simp only [IsField, SentenceTime.dateField, List.mem_append, not_or] at *
  tauto

theorem RmcFields.length_time (f : RmcFields) : (f.time t).length = 6 + f.fraction.length := by
  simp only [RmcFields.time, SentenceTime.timeField, SentenceTime.field, List.length_append,
    List.length_cons, List.length_nil]

theorem length_dateField : t.dateField.length = 6 := rfl

end digits

/-! ## The tokens of a sentence -/

/-- Speed and course as tokens: an empty one is none. -/
def RmcFields.moving (f : RmcFields) : List Bytes := [f.speed, f.course].filter (!·.isEmpty)

theorem RmcFields.length_moving (f : RmcFields) :
    f.moving.length = 2 ↔ f.speed ≠ [] ∧ f.course ≠ [] := by
  unfold moving
  cases f.speed <;> cases f.course <;> simp

theorem tokens_body (f : RmcFields) {time date : Bytes} (htime : IsField time) (hne : time ≠ [])
    (hdate : IsField date) (hne' : date ≠ []) (post : Bytes) :
    tokens comma (f.body time date post) =
      time :: [letterA] :: f.latitude :: f.northSouth :: f.longitude :: f.eastWest ::
        (f.moving ++ date :: tokens comma post) := by
  obtain ⟨hlat, hns, hlon, hew, hspeed, hcourse⟩ : IsField f.latitude ∧ IsField f.northSouth ∧
      IsField f.longitude ∧ IsField f.eastWest ∧ IsField f.speed ∧ IsField f.course := by
    simpa using fun s hs => f.isField s (List.mem_cons_of_mem _ hs)
  obtain ⟨hlat', hns', hlon', hew'⟩ : f.latitude ≠ [] ∧ f.northSouth ≠ [] ∧ f.longitude ≠ [] ∧
      f.eastWest ≠ [] := by
    simpa using f.given
  have hstatus : comma ∉ [letterA] ∧ [letterA] ≠ [] := by decide
  unfold RmcFields.body RmcFields.moving
  rw [tokens_field htime.1, if_neg hne, tokens_field hstatus.1, if_neg hstatus.2,
    tokens_field hlat.1, if_neg hlat', tokens_field hns.1, if_neg hns', tokens_field hlon.1,
    if_neg hlon', tokens_field hew.1, if_neg hew', tokens_field hspeed.1, tokens_field hcourse.1,
    tokens_field hdate.1, if_neg hne']
  cases f.speed <;> cases f.course <;> simp

/-- What the chain yields, by its tokens. -/
theorem rmcChain_fixed_iff {data time date : Bytes} :
    rmcChain data = some (.fixed time date) ↔
      ((rmcTokens data)[1]? = some time ∧ time.length < 20) ∧
        (∃ status, (rmcTokens data)[2]? = some status ∧ letterV ∉ status ∧ letterA ∈ status) ∧
          (rmcTokens data)[9]? = some date ∧ date.length < 20 := by
  rw [rmcChain_eq]
  generalize rmcTokens data = tokens
  constructor
  · intro h
    obtain ⟨time', htime, h⟩ := Option.bind_eq_some_iff.mp h
    obtain ⟨status, hstatus, h⟩ := Option.bind_eq_some_iff.mp h
    by_cases hV : letterV ∈ status
    · simp [hV] at h
    · by_cases hA : letterA ∈ status
      · rw [if_neg hV, if_pos hA] at h
        obtain ⟨-, -, h⟩ := Option.bind_eq_some_iff.mp h
        obtain ⟨-, -, h⟩ := Option.bind_eq_some_iff.mp h
        obtain ⟨date', hdate, h⟩ := Option.map_eq_some_iff.mp h
        obtain ⟨rfl, rfl⟩ := Rmc.fixed.inj h
        exact ⟨strcpyToken_eq_some.mp htime, ⟨status, hstatus, hV, hA⟩,
          strcpyToken_eq_some.mp hdate⟩
      · simp [hV, hA] at h
  · rintro ⟨htime, ⟨status, hstatus, hV, hA⟩, hdate⟩
    obtain ⟨latitude, hlatitude⟩ := getElem?_of_le hdate.1 (m := 3) (by decide)
    obtain ⟨longitude, hlongitude⟩ := getElem?_of_le hdate.1 (m := 5) (by decide)
    rw [strcpyToken_eq_some.mpr htime, strcpyToken_eq_some.mpr hdate, hstatus, hlatitude,
      hlongitude]
    simp [hV, hA]

theorem body_append (f : RmcFields) (time date post : Bytes) :
    f.body time date post = f.body time date [] ++ post := by
  simp [RmcFields.body]

theorem dollar_not_mem_body (f : RmcFields) {time date : Bytes} (htime : IsField time)
    (hdate : IsField date) : dollar ∉ f.body time date [] := by
  have hfields := f.isField
  have hcomma : dollar ≠ comma := by decide
  have hletter : dollar ≠ letterA := by decide
  simp only [IsField, List.forall_mem_cons, List.not_mem_nil, false_imp_iff, implies_true,
    and_true] at hfields htime hdate
  simp only [RmcFields.body, List.mem_append, List.mem_cons, List.not_mem_nil, not_or]
  tauto

/-- Behind a sentence that opens the text nothing of it is left. -/
theorem rmcTokens_of_dollars {pre : Bytes} (hpre : ∀ b ∈ pre, b = dollar) (f : RmcFields)
    {time date : Bytes} (htime : IsField time) (hdate : IsField date) (post : Bytes) :
    rmcTokens (rmcText pre f time date post) =
      tokens comma ((post.dropWhile (· != dollar)).tail) := by
  have hopen : (rmcText pre f time date post).dropWhile (· == dollar) =
      rmcKey ++ comma :: f.body time date post := by
    unfold rmcText
    rw [List.append_assoc, List.dropWhile_append_of_pos (by simpa using hpre)]
    rfl
  have hskip : ∀ b ∈ rmcKey ++ comma :: f.body time date [], (b != dollar) = true := by
    intro b hb
    rw [bne_iff_ne]
    rintro rfl
    have hbody := dollar_not_mem_body f htime hdate
    have hkey : dollar ∉ rmcKey ∧ dollar ≠ comma := by decide
    simp only [List.mem_append, List.mem_cons] at hb
    tauto
  unfold rmcTokens behind
  rw [hopen, body_append, ← List.cons_append, ← List.append_assoc,
    List.dropWhile_append_of_pos hskip]

/-- Otherwise the chain comes to the sentence, sooner or later. -/
theorem rmcTokens_of_ne {pre : Bytes} (hpre : ∃ b ∈ pre, b ≠ dollar) (f : RmcFields)
    (time date post : Bytes) :
    rmcTokens (rmcText pre f time date post) =
      tokens comma (behind dollar (pre ++ dollar :: rmcKey)) ++
        tokens comma (f.body time date post) := by
  have hmem : dollar ∈ (pre ++ dollar :: rmcKey).dropWhile (· == dollar) := by
    have hne : ¬(pre.dropWhile (· == dollar)).isEmpty := by
      rw [List.isEmpty_iff, List.dropWhile_eq_nil_iff]
      obtain ⟨b, hb, hbne⟩ := hpre
      intro hall
      exact hbne (by simpa using hall b hb)
    rw [List.dropWhile_append, if_neg hne]
    simp
  unfold rmcTokens rmcText
  rw [behind_append hmem, tokens_append]

/-! ## The surroundings that are right -/

theorem Aligned.exists_ne {pre : Bytes} (h : Aligned pre) : ∃ b ∈ pre, b ≠ dollar := by
  by_contra hnone
  have hall : ∀ b ∈ pre, b = dollar := fun b hb => by_contra fun hne => hnone ⟨b, hb, hne⟩
  have hbehind : behind dollar (pre ++ dollar :: rmcKey) = [] := by
    unfold behind
    rw [List.dropWhile_append_of_pos (by simpa using hall)]
    decide
  unfold Aligned at h
  rw [hbehind] at h
  exact absurd h (by decide)

/-- Midnight of the first of January 2000, in UTC. -/
def turnOfCentury : SentenceTime where
  date := ⟨2000, 1, 1, january, by decide⟩
  hour := 0
  minute := 0
  second := 0
  hour_lt := by decide
  minute_lt := by decide
  second_lt := by decide
  year_range := by decide

section surroundings

variable {pre : Bytes} {f : RmcFields} {post : Bytes}

/-- The chain picks the time and the date of the sentence, whatever they are. -/
def PicksFields (pre : Bytes) (f : RmcFields) (post : Bytes) : Prop :=
  ∀ t : SentenceTime,
    rmcChain (rmcText pre f (f.time t) t.dateField post) = some (.fixed (f.time t) t.dateField)

theorem rmcTokens_sentence (hpre : ∃ b ∈ pre, b ≠ dollar) (t : SentenceTime) :
    rmcTokens (rmcText pre f (f.time t) t.dateField post) =
      tokens comma (behind dollar (pre ++ dollar :: rmcKey)) ++
        f.time t :: [letterA] :: f.latitude :: f.northSouth :: f.longitude ::
          f.eastWest :: (f.moving ++ t.dateField :: tokens comma post) := by
  have htime := f.length_time t
  have hdate := length_dateField t
  rw [rmcTokens_of_ne hpre, tokens_body f (f.time_isField t)
    (List.ne_nil_of_length_pos (by omega)) (dateField_isField t)
    (List.ne_nil_of_length_pos (by omega))]

theorem picks_of_aligned (hpre : Aligned pre) (hmoving : f.moving.length = 2)
    (hlt : 6 + f.fraction.length < 20) : PicksFields pre f post := by
  intro t
  obtain ⟨name, hname⟩ := List.length_eq_one_iff.mp hpre
  obtain ⟨speed, course, hmoving⟩ := List.length_eq_two.mp hmoving
  have htokens := @rmcTokens_sentence _ f post hpre.exists_ne t
  rw [hname, hmoving] at htokens
  refine rmcChain_fixed_iff.mpr
    ⟨⟨?_, by rw [f.length_time]; exact hlt⟩, ⟨[letterA], ?_, ?_⟩, ?_, ?_⟩
  · rw [htokens]
    rfl
  · rw [htokens]
    rfl
  · decide
  · rw [htokens]
    rfl
  · rw [length_dateField]
    decide

theorem picks_tokens (h : PicksFields pre f post) (t : SentenceTime) :
    (rmcTokens (rmcText pre f (f.time t) t.dateField post))[1]? = some (f.time t) ∧
      (rmcTokens (rmcText pre f (f.time t) t.dateField post))[9]? = some t.dateField := by
  obtain ⟨htime, -, hdate⟩ := rmcChain_fixed_iff.mp (h t)
  exact ⟨htime.1, hdate.1⟩

/-- The first characters of the time tell midnight from eleven at night. -/
theorem time_ne (f : RmcFields) : f.time turnOfCentury ≠ f.time newYearsEve := by
  intro heq
  have hhead : some (0x30 : UInt8) = some 0x32 := congrArg List.head? heq
  exact absurd hhead (by decide)

theorem aligned_of_picks (h : PicksFields pre f post) : Aligned pre := by
  have hfirst := picks_tokens h turnOfCentury
  have hlast := picks_tokens h newYearsEve
  by_cases hpre : ∃ b ∈ pre, b ≠ dollar
  · rw [rmcTokens_sentence hpre] at hfirst hlast
    unfold Aligned
    -- The time is the second token only if one token comes before it.
    match hname : tokens comma (behind dollar (pre ++ dollar :: rmcKey)) with
    | [] =>
      rw [hname] at hfirst
      have hstatus : [letterA] = f.time turnOfCentury := Option.some.inj hfirst.1
      have hhead : some letterA = some (0x30 : UInt8) := congrArg List.head? hstatus
      exact absurd hhead (by decide)
    | [_] => rfl
    | _ :: _ :: _ =>
      rw [hname] at hfirst hlast
      have heq : some (f.time turnOfCentury) = some (f.time newYearsEve) :=
        hfirst.1.symm.trans hlast.1
      exact absurd (Option.some.inj heq) (time_ne f)
  · have hall : ∀ b ∈ pre, b = dollar := fun b hb => by_contra fun hne => hpre ⟨b, hb, hne⟩
    rw [rmcTokens_of_dollars hall f (f.time_isField _) (dateField_isField _)] at hfirst hlast
    exact absurd (Option.some.inj (hfirst.1.symm.trans hlast.1)) (time_ne f)

theorem moving_of_picks (h : PicksFields pre f post) : f.moving.length = 2 := by
  have haligned := aligned_of_picks h
  obtain ⟨name, hname⟩ := List.length_eq_one_iff.mp haligned
  have hfirst := (picks_tokens h turnOfCentury).2
  have hlast := (picks_tokens h newYearsEve).2
  rw [rmcTokens_sentence haligned.exists_ne, hname] at hfirst hlast
  have hne : turnOfCentury.dateField ≠ newYearsEve.dateField := by decide
  have hle : f.moving.length ≤ 2 := List.length_filter_le _ _
  -- With one of the two missing, the tenth token is one of `post`.
  match hmoving : f.moving with
  | [] =>
    rw [hmoving] at hfirst hlast
    exact absurd (Option.some.inj (hfirst.symm.trans hlast)) hne
  | [_] =>
    rw [hmoving] at hfirst hlast
    exact absurd (Option.some.inj (hfirst.symm.trans hlast)) hne
  | [_, _] => rfl
  | _ :: _ :: _ :: _ =>
    rw [hmoving] at hle
    simp at hle

end surroundings

/-- **Where the fields are taken from.** Whatever precedes and follows an active sentence, the
chain picks its time and its date, for every time and date, exactly if the name of the
sentence is in the first piece the chain looks at, neither speed nor course is empty, and the
time fits its copy. -/
theorem rmc_fields_iff (pre : Bytes) (f : RmcFields) (post : Bytes) :
    PicksFields pre f post ↔
      Aligned pre ∧ f.speed ≠ [] ∧ f.course ≠ [] ∧ 6 + f.fraction.length < 20 := by
  have hmoving := f.length_moving
  constructor
  · intro h
    obtain ⟨hspeed, hcourse⟩ := hmoving.mp (moving_of_picks h)
    have hlt := (rmcChain_fixed_iff.mp (h turnOfCentury)).1.2
    rw [f.length_time] at hlt
    exact ⟨aligned_of_picks h, hspeed, hcourse, hlt⟩
  · rintro ⟨hpre, hspeed, hcourse, hlt⟩
    exact picks_of_aligned hpre (hmoving.mpr ⟨hspeed, hcourse⟩) hlt

/-- A receiver that does not move and sends no course. -/
def stillFix : RmcFields where
  fraction := []
  latitude := ascii ['1', '0', '4', '5', '.', '5']
  northSouth := ascii ['N']
  longitude := ascii ['1', '0', '6', '4', '0', '.', '2']
  eastWest := ascii ['E']
  speed := ascii ['0', '.', '1']
  course := []
  isField := by unfold IsField; decide
  given := by decide

/-- No magnetic variation, the checksum and the end of the line. -/
def stillRest : Bytes := ascii [',', ',', 'A', '*', '7', 'C', '\r', '\n']

/-- A text that is one sentence has no tokens for the chain; after another sentence, without a
course, what it takes for the date is the checksum. -/
theorem stillFix_not_picked :
    rmcChain (rmcText [] stillFix (stillFix.time turnOfCentury) turnOfCentury.dateField stillRest) =
        none ∧
      rmcChain (rmcText (ascii ['$', 'G', 'N', 'Z', 'D', 'A', ',', '0', '0', '\r', '\n']) stillFix
          (stillFix.time turnOfCentury) turnOfCentury.dateField stillRest) =
        some (.fixed (stillFix.time turnOfCentury) (ascii ['A', '*', '7', 'C', '\r', '\n'])) := by
  decide

end Lighting
