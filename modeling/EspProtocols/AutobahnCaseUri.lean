import EspProtocols.AutobahnGetString

/-! The URIs `run_test_case` and `update_reports` format into `char uri[512]`: all fit exactly when
the server URI has at most 468 bytes, and the one `app_main` reads from stdin has at most 255. -/

namespace EspProtocols.Autobahn

/-- The bytes of an ASCII text. -/
def ascii (s : String) : List UInt8 := s.toList.map fun c => UInt8.ofNat c.toNat

/-- `%s` of a `char` array: its bytes before the first NUL, looking at no more than `n`. -/
def cStr (buf : Nat → UInt8) : Nat → Nat → List UInt8
  | 0, _ => []
  | n + 1, i => if buf i = 0 then [] else buf i :: cStr buf n (i + 1)

/-- `snprintf(buf, size, ...)` of the text `t`: what it leaves in `buf`, and what it returns. -/
def snprintf (size : Nat) (t : List UInt8) : List UInt8 × Int :=
  (t.take (size - 1) ++ [0], t.length)

/-- The `snprintf` into `char uri[512]` and its check: the URI, or `none` at "URI too long". -/
def formatUri (t : List UInt8) : Option (List UInt8) :=
  if (snprintf 512 t).2 < 0 ∨ (snprintf 512 t).2 ≥ 512 then none else some (snprintf 512 t).1

/-- The literal pieces of `"%s/runCase?case=%d&agent=esp_websocket_client"`. -/
def runCasePath : String := "/runCase?case="

def runCaseAgent : String := "&agent=esp_websocket_client"

/-- The text of `run_test_case`'s `snprintf` for `AUTOBAHN_SERVER_URI` and `case_num`. -/
def runCaseText (server : List UInt8) (caseNum : Int) : List UInt8 :=
  server ++ ascii runCasePath ++ ascii (toString caseNum) ++ ascii runCaseAgent

/-- Lines 431-437 of `run_test_case`: the URI, or `none` where it returns `ESP_ERR_INVALID_ARG`. -/
def runTestCaseUri (server : List UInt8) (caseNum : Int) : Option (List UInt8) :=
  formatUri (runCaseText server caseNum)

/-- The literal part of `"%s/updateReports?agent=esp_websocket_client"`. -/
def updateReportsPath : String := "/updateReports?agent=esp_websocket_client"

/-- The text of `update_reports`' `snprintf` for `AUTOBAHN_SERVER_URI`. -/
def updateReportsText (server : List UInt8) : List UInt8 :=
  server ++ ascii updateReportsPath

/-- Lines 527-534 of `update_reports`: the URI, or `none` where it returns. -/
def updateReportsUri (server : List UInt8) : Option (List UInt8) :=
  formatUri (updateReportsText server)

/-- `START_CASE` and `END_CASE`. -/
def startCase : Int := 1

def endCase : Int := 16

/-- The `case_num`s of `for (int i = START_CASE; i <= END_CASE; i++)`. -/
def testCases : List Int :=
  (List.range (endCase - startCase + 1).toNat).map fun k : Nat => startCase + k

/-- The check fails exactly when the text has 512 bytes or more; otherwise the URI is the text. -/
theorem formatUri_eq (t : List UInt8) :
    formatUri t = if t.length < 512 then some (t ++ [0]) else none := by
  have hs : (snprintf 512 t).2 = t.length := rfl
  by_cases h : t.length < 512
  · rw [if_pos h, formatUri, hs, if_neg (by omega), snprintf,
      List.take_of_length_le (by omega)]
  · rw [if_neg h, formatUri, hs, if_pos (by omega)]

theorem formatUri_isSome {t : List UInt8} : (formatUri t).isSome ↔ t.length < 512 := by
  rw [formatUri_eq]
  by_cases h : t.length < 512 <;> simp [h]

@[simp] theorem ascii_length (s : String) : (ascii s).length = s.length := by
  rw [ascii, List.length_map]
  rfl

theorem runCaseText_length (server : List UInt8) (caseNum : Int) :
    (runCaseText server caseNum).length = server.length + (toString caseNum).length + 41 := by
  simp only [runCaseText, List.length_append, ascii_length]
  have : runCasePath.length + runCaseAgent.length = 41 := by decide
  omega

theorem updateReportsText_length (server : List UInt8) :
    (updateReportsText server).length = server.length + 41 := by
  simp only [updateReportsText, List.length_append, ascii_length]
  rfl

theorem testCases_digits : ∀ i ∈ testCases, (toString i).length ≤ 2 := by decide

theorem endCase_mem : endCase ∈ testCases ∧ (toString endCase).length = 2 := by decide

/-- Every URI of the run fits `char uri[512]` exactly when the server URI has at most 468 bytes. -/
theorem app_start_uris_fit_iff (server : List UInt8) :
    ((∀ i ∈ testCases, (runTestCaseUri server i).isSome) ∧
        (updateReportsUri server).isSome) ↔ server.length ≤ 468 := by
  simp only [runTestCaseUri, updateReportsUri, formatUri_isSome, runCaseText_length,
    updateReportsText_length]
  refine ⟨fun h => ?_, fun h => ⟨fun i hi => ?_, by omega⟩⟩
  · have := h.1 _ endCase_mem.1
    rw [endCase_mem.2] at this
    omega
  · have := testCases_digits i hi
    omega

theorem cStr_of_holds {buf : Nat → UInt8} :
    ∀ (cs : List UInt8) (i n : Nat), (∀ j < cs.length, buf (i + j) = cs.getD j 0) →
      buf (i + cs.length) = 0 → (∀ c ∈ cs, c ≠ 0) → cs.length < n → cStr buf n i = cs
  | _, _, 0, _, _, _, hn => absurd hn (Nat.not_lt_zero _)
  | [], i, n + 1, _, h0, _, _ => by simpa [cStr] using h0
  | c :: cs, i, n + 1, hc, h0, hnz, hn => by
    have hi : buf i = c := by simpa using hc 0 (by simp)
    rw [cStr, hi, if_neg (hnz c (List.mem_cons_self _ _))]
    congr 1
    refine cStr_of_holds cs (i + 1) n (fun j hj => ?_) ?_
      (fun c hc => hnz c (List.mem_cons_of_mem _ hc)) (by simpa using hn)
    · simpa [Nat.add_assoc, Nat.add_comm 1 j] using hc (j + 1) (by simp; omega)
    · simpa [Nat.add_assoc, Nat.add_comm 1] using h0

/-- With the URI read from stdin, no `run_test_case` nor `update_reports` gives up: each formats its
whole text, the longest 298 bytes. -/
theorem stdin_uri_formats_whole (input : List Int) (uri : Nat → UInt8) :
    ∀ r ∈ readServerUri input uri,
      (∀ i ∈ testCases,
        runTestCaseUri (cStr r.1 256 0) i = some (runCaseText (cStr r.1 256 0) i ++ [0])) ∧
      updateReportsUri (cStr r.1 256 0) = some (updateReportsText (cStr r.1 256 0) ++ [0]) := by
  intro r hr
  obtain ⟨cs, hs, -, hl, hp, -⟩ := readServerUri_read input uri hr
  have he : cStr r.1 256 0 = cs :=
    cStr_of_holds cs 0 256 (by simpa using hs.1) (by simpa using hs.2)
      (fun c hc h => absurd (h ▸ (hp c hc).1) (by decide)) (by omega)
  rw [he]
  refine ⟨fun i hi => ?_, ?_⟩
  · have := testCases_digits i hi
    rw [runTestCaseUri, formatUri_eq, if_pos (by rw [runCaseText_length]; omega)]
  · rw [updateReportsUri, formatUri_eq, if_pos (by rw [updateReportsText_length]; omega)]

theorem stdin_w_formats_whole :
    ∃ r ∈ readServerUri [119, 10] (fun _ => 0),
      (∀ i ∈ testCases,
        runTestCaseUri (cStr r.1 256 0) i = some (runCaseText (cStr r.1 256 0) i ++ [0])) ∧
      updateReportsUri (cStr r.1 256 0) = some (updateReportsText (cStr r.1 256 0) ++ [0]) := by
  obtain ⟨r, hr⟩ := Option.isSome_iff_exists.mp
    (readServerUri_isSome [119, 10] (fun _ => 0) (List.Sublist.refl _) (by decide) (.inl rfl))
  exact ⟨r, hr, stdin_uri_formats_whole _ _ r hr⟩

end EspProtocols.Autobahn
