import Mathlib.Data.Nat.Defs
import EspProtocols.AutobahnHandler

/-! `get_string` of `autobahn_testee.c`, shown equal to a list function that says which characters
it keeps: the line is a NUL-terminated string of at most `size - 1` printable characters. -/

namespace EspProtocols.Autobahn

/-- The loop of `get_string(line, size)` from `count`: `none` while it waits for input, or where
`++count` would pass `INT_MAX`. -/
def getStringLoop (size : Nat) :
    List Int → Nat → (Nat → UInt8) → Option (Nat × (Nat → UInt8) × List Int)
  | input, count, line =>
    if count < sizeAdd size 4294967295 then
      match input with
      | [] => none
      | c :: rest =>
        if c = 10 ∨ c = 13 then some (count, Function.update line count 0, rest)
        else if 0 < c ∧ c < 127 then
          if count + 1 < intLimit then
            getStringLoop size rest (count + 1) (Function.update line count (UInt8.ofNat c.toNat))
          else none
        else getStringLoop size rest count line
    else some (count, line, input)

/-- `get_string(line, size)`: the loop, then `line[count] = '\0'`. -/
def getString (size : Nat) (input : List Int) (line : Nat → UInt8) :
    Option ((Nat → UInt8) × List Int) :=
  (getStringLoop size input 0 line).map fun r => (Function.update r.2.1 r.1 0, r.2.2)

/-- What `get_string` keeps, at most `k` characters up to a CR or LF, and the input it leaves. -/
def keptLine (k : Nat) : List Int → Option (List UInt8 × List Int)
  | [] => if k = 0 then some ([], []) else none
  | c :: rest =>
    if k = 0 then some ([], c :: rest)
    else if c = 10 ∨ c = 13 then some ([], rest)
    else if 0 < c ∧ c < 127 then
      (keptLine (k - 1) rest).map fun r => (UInt8.ofNat c.toNat :: r.1, r.2)
    else keptLine k rest

def writeLine (line : Nat → UInt8) (count : Nat) (cs : List UInt8) : Nat → UInt8 :=
  fun i => if count ≤ i ∧ i < count + cs.length then cs.getD (i - count) 0
    else if i = count + cs.length then 0 else line i

theorem writeLine_nil (line : Nat → UInt8) (count : Nat) :
    writeLine line count [] = Function.update line count 0 := by
  funext i
  by_cases h : i = count
  · subst h; simp [writeLine]
  · simp only [writeLine, List.length_nil, Nat.add_zero, Function.update_noteq h]
    rw [if_neg (by omega), if_neg h]

theorem writeLine_cons (line : Nat → UInt8) (count : Nat) (c : UInt8) (cs : List UInt8) :
    writeLine (Function.update line count c) (count + 1) cs = writeLine line count (c :: cs) := by
  funext i
  simp only [writeLine, List.length_cons,
    show count + (cs.length + 1) = count + 1 + cs.length by omega]
  by_cases h₁ : i = count
  · subst h₁
    rw [if_neg (by omega), if_neg (by omega), if_pos (by omega), Nat.sub_self]
    simp
  · rw [Function.update_noteq h₁]
    by_cases h₂ : count + 1 ≤ i ∧ i < count + 1 + cs.length
    · rw [if_pos h₂, if_pos (by omega), show i - count = i - (count + 1) + 1 by omega]; rfl
    · rw [if_neg h₂, if_neg (show ¬(count ≤ i ∧ i < count + 1 + cs.length) by omega)]

theorem sizeAdd_pred {size : Nat} (h₀ : 0 < size) (h : size ≤ 4294967296) :
    sizeAdd size 4294967295 = size - 1 := by
  unfold sizeAdd
  by_cases hs : size = 4294967296
  · subst hs; rfl
  · rw [Nat.mod_eq_sub_mod (by omega), Nat.mod_eq_of_lt (by omega)]
    omega

/-- The loop from `count` and its NUL keep what `keptLine` keeps with `size - 1 - count` allowed. -/
theorem getStringLoop_eq {size : Nat} (h₀ : 0 < size) (h : size ≤ intLimit) :
    ∀ (input : List Int) (count : Nat) (line : Nat → UInt8),
      (getStringLoop size input count line).map (fun r => (Function.update r.2.1 r.1 0, r.2.2)) =
        (keptLine (size - 1 - count) input).map fun r => (writeLine line count r.1, r.2)
  | [], count, line => by
    rw [getStringLoop, sizeAdd_pred h₀ (Nat.le_trans h (by decide)), keptLine]
    by_cases hc : count < size - 1
    · rw [if_pos hc, if_neg (show size - 1 - count ≠ 0 by omega)]; rfl
    · rw [if_neg hc, if_pos (show size - 1 - count = 0 by omega)]
      simp [writeLine_nil]
  | c :: rest, count, line => by
    rw [getStringLoop, sizeAdd_pred h₀ (Nat.le_trans h (by decide)), keptLine]
    by_cases hc : count < size - 1
    · rw [if_pos hc, if_neg (show size - 1 - count ≠ 0 by omega)]
      by_cases hn : c = 10 ∨ c = 13
      · simp [hn, writeLine_nil]
      · rw [if_neg hn, if_neg hn]
        by_cases hk : 0 < c ∧ c < 127
        · have hi : count + 1 < intLimit := by unfold intLimit at h ⊢; omega
          rw [if_pos hk, if_pos hi, if_pos hk, getStringLoop_eq h₀ h rest,
            show size - 1 - (count + 1) = size - 1 - count - 1 by omega, Option.map_map]
          congr 1
          funext r
          simp [writeLine_cons]
        · rw [if_neg hk, if_neg hk, getStringLoop_eq h₀ h rest]
    · rw [if_neg hc, if_pos (show size - 1 - count = 0 by omega)]
      simp [writeLine_nil]

/-- `get_string(line, size)` refines `keptLine`, writing the kept characters from 0 and a NUL. -/
theorem getString_eq {size : Nat} (h₀ : 0 < size) (h : size ≤ intLimit)
    (input : List Int) (line : Nat → UInt8) :
    getString size input line =
      (keptLine (size - 1) input).map fun r => (writeLine line 0 r.1, r.2) := by
  simpa using getStringLoop_eq h₀ h input 0 line

theorem keptLine_isSome (k : Nat) :
    ∀ input : List Int, (∃ c ∈ input, c = 10 ∨ c = 13) ∨
      k ≤ (input.filter fun c => 0 < c ∧ c < 127).length → (keptLine k input).isSome
  | [], h => by
    rcases h with ⟨c, hc, -⟩ | h
    · cases hc
    · simp at h; simp [keptLine, h]
  | c :: input, h => by
    unfold keptLine
    split
    · rfl
    split
    · rfl
    rename_i hk hn
    split
    · rename_i hc
      rw [Option.isSome_map']
      refine keptLine_isSome (k - 1) input ?_
      rcases h with ⟨c', hc', h'⟩ | h
      · rcases List.mem_cons.mp hc' with rfl | hc'
        · exact absurd h' hn
        · exact .inl ⟨c', hc', h'⟩
      · right
        simp only [List.filter_cons, hc, and_self, decide_True, ite_true, List.length_cons] at h
        omega
    · rename_i hc
      refine keptLine_isSome k input ?_
      rcases h with ⟨c', hc', h'⟩ | h
      · rcases List.mem_cons.mp hc' with rfl | hc'
        · exact absurd h' hn
        · exact .inl ⟨c', hc', h'⟩
      · right
        simpa [List.filter_cons, hc] using h

/-- The characters `keptLine` keeps are the first `k` in 1-126 before the first CR or LF. -/
theorem keptLine_chars {k : Nat} {input : List Int} {cs : List UInt8} {rest : List Int}
    (h : keptLine k input = some (cs, rest)) :
    cs = ((((input.takeWhile fun c => c ≠ 10 ∧ c ≠ 13).filter fun c => 0 < c ∧ c < 127).map
      fun c => UInt8.ofNat c.toNat).take k) := by
  induction input generalizing k cs with
  | nil =>
    unfold keptLine at h
    split at h <;> cases h
    simp
  | cons c input ih =>
    unfold keptLine at h
    split at h
    · cases h; simp [*]
    split at h
    · rename_i hn
      cases h
      rcases hn with rfl | rfl <;> simp
    rename_i hk hn
    have hw : (c :: input).takeWhile (fun c => c ≠ 10 ∧ c ≠ 13) =
        c :: input.takeWhile (fun c => c ≠ 10 ∧ c ≠ 13) :=
      List.takeWhile_cons_of_pos (by simpa [not_or] using hn)
    rw [hw]
    split at h
    · rename_i hc
      obtain ⟨⟨cs', rest'⟩, e, he⟩ := Option.map_eq_some'.mp h
      cases he
      obtain ⟨k, rfl⟩ := Nat.exists_eq_succ_of_ne_zero hk
      simp [hc, ih e]
    · rename_i hc
      simpa [hc] using ih h

theorem keptLine_bounds {k : Nat} {input : List Int} {cs : List UInt8} {rest : List Int}
    (h : keptLine k input = some (cs, rest)) :
    cs.length ≤ k ∧ ∀ c ∈ cs, 0 < c.toNat ∧ c.toNat < 127 := by
  rw [keptLine_chars h]
  refine ⟨List.length_take_le _ _, fun c hc => ?_⟩
  obtain ⟨i, hi, rfl⟩ := List.mem_map.mp (List.mem_of_mem_take hc)
  have hp : 0 < i ∧ i < 127 := by simpa using (List.mem_filter.mp hi).2
  rw [UInt8.toNat_ofNat_of_lt (show i.toNat < UInt8.size by simp [UInt8.size]; omega)]
  omega

/-- What `keptLine` leaves is a part of the input, shorter when it may keep a character. -/
theorem keptLine_rest_length {k : Nat} {input : List Int} {cs : List UInt8} {rest : List Int}
    (h : keptLine k input = some (cs, rest)) : rest.length + min k 1 ≤ input.length := by
  induction input generalizing k cs with
  | nil =>
    unfold keptLine at h
    split at h <;> cases h
    simp [*]
  | cons c input ih =>
    unfold keptLine at h
    split at h
    · cases h; simp [*]
    split at h
    · cases h; simp only [List.length_cons]; omega
    split at h
    · obtain ⟨⟨cs', rest'⟩, e, he⟩ := Option.map_eq_some'.mp h
      cases he
      have : rest'.length + min (k - 1) 1 ≤ input.length := ih e
      simp only [List.length_cons]
      omega
    · have := ih h
      simp only [List.length_cons]
      omega

theorem keptLine_nil_rest {k : Nat} (hk : 0 < k) {input rest : List Int}
    (h : keptLine k input = some ([], rest)) :
    ∃ pre, input = pre ++ rest ∧
      ∀ c ∈ pre, ¬(c ≠ 10 ∧ c ≠ 13 ∧ 0 < c ∧ c < 127) := by
  induction input with
  | nil => simp [keptLine, Nat.pos_iff_ne_zero.mp hk] at h
  | cons c input ih =>
    unfold keptLine at h
    rw [if_neg (Nat.pos_iff_ne_zero.mp hk)] at h
    split at h
    · rename_i hn
      cases h
      exact ⟨[c], rfl, fun x hx ⟨h₁, h₂, _⟩ => by
        obtain rfl := List.mem_singleton.mp hx
        exact hn.elim h₁ h₂⟩
    split at h
    · simp at h
    · rename_i hn hc
      obtain ⟨pre, rfl, hp⟩ := ih h
      exact ⟨c :: pre, rfl, List.forall_mem_cons.mpr ⟨fun ⟨_, _, hk⟩ => hc hk, hp⟩⟩

/-- `line` holds the C string `cs`: its characters from 0, then a NUL. -/
def HoldsCString (line : Nat → UInt8) (cs : List UInt8) : Prop :=
  (∀ i < cs.length, line i = cs.getD i 0) ∧ line cs.length = 0

theorem writeLine_holds (line : Nat → UInt8) (cs : List UInt8) :
    HoldsCString (writeLine line 0 cs) cs :=
  ⟨fun i hi => by simp [writeLine, hi], by simp [writeLine]⟩

theorem writeLine_frame (line : Nat → UInt8) (cs : List UInt8) {i : Nat} (hi : cs.length < i) :
    writeLine line 0 cs i = line i := by
  simp only [writeLine]
  rw [if_neg (by omega), if_neg (by omega)]

/-- One call of `get_string`: the characters it keeps, the line and the input it leaves. -/
theorem getString_some {size : Nat} (h₀ : 0 < size) (h : size ≤ intLimit) {input : List Int}
    {line line' : Nat → UInt8} {rest : List Int}
    (hg : getString size input line = some (line', rest)) :
    ∃ cs, keptLine (size - 1) input = some (cs, rest) ∧ line' = writeLine line 0 cs := by
  rw [getString_eq h₀ h] at hg
  obtain ⟨⟨cs, rest'⟩, e, he⟩ := Option.map_eq_some'.mp hg
  cases he
  exact ⟨cs, e, rfl⟩

/-- `get_string(line, size)` for `0 < size ≤ 2^31` leaves the first `size - 1` characters in 1-126
before the first CR or LF as a C string, changes nothing past `line[size]`, and returns. -/
theorem get_string_reads_printable_line {size : Nat} (h₀ : 0 < size) (h : size ≤ intLimit)
    (input : List Int) (line : Nat → UInt8) :
    (∀ r ∈ getString size input line, ∃ cs, HoldsCString r.1 cs ∧
      cs = ((((input.takeWhile fun c => c ≠ 10 ∧ c ≠ 13).filter
        fun c => 0 < c ∧ c < 127).map
        fun c => UInt8.ofNat c.toNat).take (size - 1)) ∧
      (∀ c ∈ cs, 0 < c.toNat ∧ c.toNat < 127) ∧ cs.length < size ∧
      ∀ i, size ≤ i → r.1 i = line i) ∧
    ((∃ c ∈ input, c = 10 ∨ c = 13) ∨
      size - 1 ≤ (input.filter fun c => 0 < c ∧ c < 127).length →
      (getString size input line).isSome) := by
  refine ⟨fun ⟨line', rest⟩ hr => ?_, fun hi => ?_⟩
  · obtain ⟨cs, e, rfl⟩ := getString_some h₀ h hr
    obtain ⟨hl, hp⟩ := keptLine_bounds e
    exact ⟨cs, writeLine_holds line cs, keptLine_chars e, hp, by omega,
      fun i hi => writeLine_frame line cs (by omega)⟩
  · rw [getString_eq h₀ h, Option.isSome_map']
    exact keptLine_isSome _ input hi

def wsLine : List Int := [119, 0, 115, 13, 10]

theorem get_string_reads_ws_line :
    (0 : Nat) < 256 ∧ (256 : Nat) ≤ intLimit ∧
    ((∀ r ∈ getString 256 wsLine (fun _ => 0), ∃ cs, HoldsCString r.1 cs ∧
      cs = ((((wsLine.takeWhile fun c => c ≠ 10 ∧ c ≠ 13).filter
        fun c => 0 < c ∧ c < 127).map fun c => UInt8.ofNat c.toNat).take (256 - 1)) ∧
      (∀ c ∈ cs, 0 < c.toNat ∧ c.toNat < 127) ∧ cs.length < 256 ∧
      ∀ i, 256 ≤ i → r.1 i = (fun _ => 0) i) ∧
    ((∃ c ∈ wsLine, c = 10 ∨ c = 13) ∨
      256 - 1 ≤ (wsLine.filter fun c => 0 < c ∧ c < 127).length →
      (getString 256 wsLine (fun _ => 0)).isSome)) :=
  ⟨by decide, by decide, get_string_reads_printable_line (by decide) (by decide) _ _⟩

theorem getString_uri_rest_lt {input : List Int} {uri uri' : Nat → UInt8} {rest : List Int}
    (hg : getString 256 input uri = some (uri', rest)) : rest.length < input.length := by
  obtain ⟨cs, e, -⟩ := getString_some (by decide) (by decide) hg
  have := keptLine_rest_length e
  omega

/-- Lines 670-674: `get_string(uri, 256)` and `uri[255] = '\0'`, again while `uri[0]` is NUL. -/
def readServerUri (input : List Int) (uri : Nat → UInt8) : Option ((Nat → UInt8) × List Int) :=
  match _hg : getString 256 input uri with
  | none => none
  | some (uri', rest) =>
    if Function.update uri' 255 0 0 = 0 then readServerUri rest (Function.update uri' 255 0)
    else some (Function.update uri' 255 0, rest)
termination_by input.length
decreasing_by exact getString_uri_rest_lt _hg

theorem uri_pass {input : List Int} {uri uri' : Nat → UInt8} {rest : List Int}
    (hg : getString 256 input uri = some (uri', rest)) :
    ∃ cs, keptLine 255 input = some (cs, rest) ∧
      HoldsCString (Function.update uri' 255 0) cs ∧
      cs.length ≤ 255 ∧ (∀ c ∈ cs, 0 < c.toNat ∧ c.toNat < 127) ∧
      ∀ i, 256 ≤ i → Function.update uri' 255 0 i = uri i := by
  obtain ⟨cs, e, rfl⟩ := getString_some (by decide) (by decide) hg
  obtain ⟨hl, hp⟩ := keptLine_bounds e
  refine ⟨cs, e, ⟨fun i hi => ?_, ?_⟩, hl, hp, fun i hi => ?_⟩
  · rw [Function.update_noteq (by omega)]
    exact (writeLine_holds uri cs).1 i hi
  · by_cases h255 : cs.length = 255
    · rw [h255, Function.update_same]
    · rw [Function.update_noteq h255]
      exact (writeLine_holds uri cs).2
  · rw [Function.update_noteq (by omega), writeLine_frame uri cs (by omega)]

/-- A non-empty C string of at most 255 characters in 1-126, nothing past `uri[256]` changed. -/
def ServerUriRead (uri₀ uri : Nat → UInt8) : Prop :=
  ∃ cs, HoldsCString uri cs ∧ 0 < cs.length ∧ cs.length ≤ 255 ∧
    (∀ c ∈ cs, 0 < c.toNat ∧ c.toNat < 127) ∧ ∀ i, 256 ≤ i → uri i = uri₀ i

theorem readServerUri_read (input : List Int) (uri : Nat → UInt8)
    {r : (Nat → UInt8) × List Int} (h : readServerUri input uri = some r) :
    ServerUriRead uri r.1 := by
  rw [readServerUri] at h
  split at h
  · cases h
  · rename_i uri' rest hg
    obtain ⟨cs, -, hs, hl, hp, hf⟩ := uri_pass hg
    split at h
    · obtain ⟨cs', hs', hpos, hl', hp', hf'⟩ := readServerUri_read rest _ h
      exact ⟨cs', hs', hpos, hl', hp', fun i hi => (hf' i hi).trans (hf i hi)⟩
    · rename_i h0
      cases h
      refine ⟨cs, hs, List.length_pos.mpr ?_, hl, hp, hf⟩
      rintro rfl
      exact h0 hs.2
termination_by input.length
decreasing_by all_goals simp_wf; exact getString_uri_rest_lt ‹_›

theorem readServerUri_isSome (input : List Int) (uri : Nat → UInt8) {a b : Int}
    (hab : List.Sublist [a, b] input) (ha : a ≠ 10 ∧ a ≠ 13 ∧ 0 < a ∧ a < 127)
    (hb : b = 10 ∨ b = 13) :
    (readServerUri input uri).isSome := by
  rw [readServerUri]
  split
  · rename_i hg
    have e := congrArg Option.isSome
      (getString_eq (show 0 < 256 by decide) (show 256 ≤ intLimit by decide) input uri)
    rw [hg, Option.isSome_map'] at e
    exact absurd (keptLine_isSome 255 input (.inl ⟨b, hab.subset (by simp), hb⟩))
      (by simpa using e.symm)
  · rename_i uri' rest hg
    obtain ⟨cs, e, hs, -, hp, -⟩ := uri_pass hg
    split
    · rename_i h0
      obtain rfl : cs = [] := by
        cases cs with
        | nil => rfl
        | cons c cs =>
          have h1 : c = 0 := (hs.1 0 (by simp)).symm.trans h0
          have := (hp c (List.mem_cons_self _ _)).1
          rw [h1] at this
          exact absurd this (by decide)
      obtain ⟨pre, rfl, hpre⟩ := keptLine_nil_rest (by decide) e
      obtain ⟨l₁, l₂, he, h₁, h₂⟩ := List.sublist_append_iff.mp hab
      cases l₁ with
      | nil => exact readServerUri_isSome rest _ (by simpa [he] using h₂) ha hb
      | cons x l₁ =>
        obtain ⟨rfl, -⟩ := List.cons_eq_cons.mp he
        exact absurd ha (hpre _ (h₁.subset (List.mem_cons_self _ _)))
    · rfl
termination_by input.length
decreasing_by all_goals simp_wf; exact getString_uri_rest_lt ‹_›

/-- The URI loop of `app_main` leaves a non-empty printable C string, and ends once stdin has sent a
character it keeps and then a CR or LF. -/
theorem server_uri_read_nonempty (input : List Int) (uri : Nat → UInt8) :
    (∀ r ∈ readServerUri input uri, ServerUriRead uri r.1) ∧
    ((∃ a b, List.Sublist [a, b] input ∧ (a ≠ 10 ∧ a ≠ 13 ∧ 0 < a ∧ a < 127) ∧
        (b = 10 ∨ b = 13)) →
      (readServerUri input uri).isSome) :=
  ⟨fun _ h => readServerUri_read input uri h,
    fun ⟨_, _, hab, ha, hb⟩ => readServerUri_isSome input uri hab ha hb⟩

theorem server_uri_after_blank_line : (readServerUri [13, 10, 119, 10] fun _ => 0).isSome :=
  (server_uri_read_nonempty _ _).2 ⟨119, 10, by decide, by decide, by decide⟩

end EspProtocols.Autobahn
