import Clipping.Program.Run

/-! What stops a run without a report. Failures have reports, which are printed; the faults
are those of files that are no text, of markup that is rejected and of numerals that are too
long, and nothing else. What a machine may refuse besides is left out of these statements: here
names have any length, all nesting is followed, and a lone surrogate of JSON is replaced. -/
namespace Clipping

open Markup

def Stop.Reported (stop : Stop) : Prop := ∃ f, stop = .failure f

@[simp] theorem Stop.reported_failure (f : Failure) : (Stop.failure f).Reported := ⟨f, rfl⟩

@[simp] theorem Stop.not_reported_file (f : FileFault) : ¬(Stop.file f).Reported := nofun

@[simp] theorem Stop.not_reported_rejected (cause : Rejection) : ¬(Stop.rejected cause).Reported := nofun

@[simp] theorem Stop.not_reported_numeral : ¬Stop.numeral.Reported := nofun

namespace Traced

variable {α β : Type} {stop : Stop}

def Faults (t : Traced α) (stop : Stop) : Prop := t.result = .error stop ∧ ¬stop.Reported

theorem result_bind (t : Traced α) (f : α → Traced β) :
    (t >>= f).result = t.result.bind fun v => (f v).result := by
  show (Traced.bind t f).result = _
  unfold Traced.bind Except.bind
  cases t.result <;> rfl

theorem faults_bind {t : Traced α} {f : α → Traced β} :
    (t >>= f).Faults stop ↔ t.Faults stop ∨ ∃ v, t.result = .ok v ∧ (f v).Faults stop := by
  unfold Faults
  rw [result_bind]
  cases t.result <;> simp [Except.bind]

theorem faults_bind_of_ok {t : Traced α} {f : α → Traced β} {v : α} (done : t.result = .ok v) :
    (t >>= f).Faults stop ↔ (f v).Faults stop := by
  unfold Faults
  rw [result_bind, done]
  rfl

theorem not_faults_of_ok {t : Traced α} {v : α} (done : t.result = .ok v) : ¬t.Faults stop := by
  rintro ⟨stopped, -⟩
  rw [done] at stopped
  cases stopped

theorem not_faults_failure (f : Failure) : ¬(Traced.stop (.failure f) : Traced α).Faults stop := by
  rintro ⟨stopped, unreported⟩
  cases stopped
  exact unreported ⟨f, rfl⟩

theorem faults_mapError {ε : Type} {r : Except ε α} {f : ε → Stop} :
    (ofExcept (r.mapError f)).Faults stop ↔ ∃ e, r = .error e ∧ f e = stop ∧ ¬stop.Reported := by
  cases r with
  | ok v =>
    refine ⟨fun faults => absurd faults (not_faults_of_ok rfl), ?_⟩
    rintro ⟨e, failed, -⟩
    cases failed
  | error e =>
    constructor
    · rintro ⟨stopped, unreported⟩
      exact ⟨e, rfl, Except.error.inj stopped, unreported⟩
    · rintro ⟨other, failed, rfl, unreported⟩
      cases failed
      exact ⟨rfl, unreported⟩

theorem result_mapError_eq_ok_iff {ε : Type} {r : Except ε α} {f : ε → Stop} {v : α} :
    (ofExcept (r.mapError f)).result = .ok v ↔ r = .ok v := by
  cases r with
  | ok w =>
    constructor
    · intro same
      exact congrArg Except.ok (Except.ok.inj same)
    · rintro ⟨⟩
      rfl
  | error e => exact ⟨nofun, nofun⟩

end Traced

/-! Files. -/

namespace Store

def itemAt (s : Store) (p : Path) : Option Item :=
  match s.place p with
  | .ok q => s.item? q
  | .error _ => none

/-- What is there but is no text: a folder, or content that is not UTF-8. -/
inductive Unreadable (s : Store) (p : Path) : FileFault → Prop
  | folder : s.itemAt p = some .folder → Unreadable s p .directory
  | undecodable {content : ByteArray} : s.itemAt p = some (.file content) →
      String.fromUTF8? content = none → Unreadable s p .undecodable

/-- A JSON file that cannot be read, or in which an integer has too many digits. -/
inductive FaultyJson (s : Store) (p : Path) : Stop → Prop
  | unreadable {f : FileFault} : s.Unreadable p f → FaultyJson s p (.file f)
  | numeral {text : String} : s.read p = .ok text → Json.read text = .error .tooManyDigits →
      FaultyJson s p .numeral

/-- A page that cannot be read, or whose markup the reader rejects, or in which a number has too
many digits. -/
inductive FaultyPage (reader : PageReader) (s : Store) (p : Path) : Stop → Prop
  | unreadable {f : FileFault} : s.Unreadable p f → FaultyPage reader s p (.file f)
  | numeral {text : String} : s.read p = .ok text → reader.isOverlong text = true →
      FaultyPage reader s p .numeral
  | rejected {text : String} {cause : Rejection} : s.read p = .ok text → reader.isOverlong text = false →
      reader.read text = .error (.rejected cause) → FaultyPage reader s p (.rejected cause)

variable {s : Store} {p : Path}

theorem holds_iff : s.holds p ↔ ∃ item, s.itemAt p = some item := by
  rw [← Option.isSome_iff_exists]
  unfold holds itemAt
  cases s.place p <;> simp

theorem read_folder (stands : s.itemAt p = some .folder) : s.read p = .error .directory := by
  unfold itemAt at stands
  unfold read
  split at stands
  · next q found => simp only [found, stands]
  · cases stands

theorem read_file {content : ByteArray} (stands : s.itemAt p = some (.file content)) :
    s.read p = decode content := by
  unfold itemAt at stands
  unfold read
  split at stands
  · next q found => simp only [found, stands]
  · cases stands

theorem decode_eq_error_iff {content : ByteArray} {f : FileFault} :
    decode content = .error f ↔ String.fromUTF8? content = none ∧ f = .undecodable := by
  unfold decode
  cases String.fromUTF8? content <;> simp [eq_comm]

theorem read_eq_error_iff {f : FileFault} (there : s.holds p) : s.read p = .error f ↔ s.Unreadable p f := by
  constructor
  · intro failed
    obtain ⟨item, stands⟩ := holds_iff.mp there
    cases item with
    | folder =>
      rw [read_folder stands] at failed
      cases failed
      exact .folder stands
    | file content =>
      rw [read_file stands] at failed
      obtain ⟨undecoded, rfl⟩ := decode_eq_error_iff.mp failed
      exact .undecodable stands undecoded
  · rintro (stands | ⟨stands, undecoded⟩)
    · exact read_folder stands
    · exact (read_file stands).trans (decode_eq_error_iff.mpr ⟨undecoded, rfl⟩)

end Store

theorem Markup.PageReader.page_eq_error_iff {reader : PageReader} {text : String} {fault : PageFault} :
    reader.page text = .error fault ↔
      (reader.isOverlong text = true ∧ fault = .numeral) ∨
        (reader.isOverlong text = false ∧ ∃ cause, reader.read text = .error cause ∧ fault = .unread cause) := by
  unfold page
  cases reader.isOverlong text with
  | true => simp [eq_comm]
  | false =>
    cases reader.read text with
    | ok e => exact ⟨nofun, fun | .inr ⟨_, _, failed, _⟩ => nomatch failed⟩
    | error cause =>
      constructor
      · rintro ⟨⟩
        exact .inr ⟨rfl, cause, rfl, rfl⟩
      · rintro (⟨⟨⟩, -⟩ | ⟨-, _, ⟨⟩, rfl⟩)
        rfl

namespace Surroundings

open Traced

variable {reader : PageReader} {s : Surroundings} {p : Path} {stop : Stop}

theorem faults_readText (there : s.store.holds p) :
    (s.readText p).Faults stop ↔ ∃ f, s.store.Unreadable p f ∧ stop = .file f := by
  unfold readText
  rw [faults_mapError]
  refine exists_congr fun f => ?_
  rw [Store.read_eq_error_iff there]
  constructor
  · rintro ⟨unreadable, rfl, -⟩
    exact ⟨unreadable, rfl⟩
  · rintro ⟨unreadable, rfl⟩
    exact ⟨unreadable, rfl, Stop.not_reported_file f⟩

theorem readText_eq_ok_iff {text : String} : (s.readText p).result = .ok text ↔ s.store.read p = .ok text :=
  result_mapError_eq_ok_iff

/-- The faults of a JSON file, where nothing that follows its reading has any. -/
theorem faults_readJson {α : Type} {malformed : Failure} {next : Json → Traced α}
    (there : s.store.holds p) (sound : ∀ v stop, ¬(next v).Faults stop) :
    (do let text ← s.readText p
        let v ← .ofExcept ((Json.read text).mapError (.ofJson malformed))
        next v : Traced α).Faults stop ↔ s.store.FaultyJson p stop := by
  simp only [faults_bind, faults_readText there, readText_eq_ok_iff, faults_mapError, sound, and_false,
    exists_false, or_false]
  constructor
  · rintro (⟨f, unreadable, rfl⟩ | ⟨text, read, fault, found, rfl, unreported⟩)
    · exact .unreadable unreadable
    · cases fault with
      | malformed => exact absurd (Stop.reported_failure malformed) unreported
      | tooManyDigits => exact .numeral read found
  · rintro (unreadable | ⟨read, found⟩)
    · exact .inl ⟨_, unreadable, rfl⟩
    · exact .inr ⟨_, read, _, found, rfl, Stop.not_reported_numeral⟩

theorem faults_readPage {α : Type} {next : Element Nat → Traced α} (there : s.store.holds p) :
    (do let text ← s.readText p
        let e ← .ofExcept ((reader.page text).mapError .ofPage)
        next e : Traced α).Faults stop ↔
      s.store.FaultyPage reader p stop ∨
        ∃ text e, s.store.read p = .ok text ∧ reader.page text = .ok e ∧ (next e).Faults stop := by
  simp only [faults_bind, faults_readText there, readText_eq_ok_iff, faults_mapError,
    result_mapError_eq_ok_iff, PageReader.page_eq_error_iff]
  constructor
  · rintro (⟨f, unreadable, rfl⟩ |
      ⟨text, read, ⟨fault, ⟨long, rfl⟩ | ⟨short, cause, found, rfl⟩, rfl, unreported⟩ | ⟨e, done, faults⟩⟩)
    · exact .inl (.unreadable unreadable)
    · exact .inl (.numeral read long)
    · cases cause with
      | rejected cause => exact .inl (.rejected read short found)
      | noElement => exact absurd (Stop.reported_failure .noElement) unreported
    · exact .inr ⟨text, e, read, done, faults⟩
  · rintro ((unreadable | ⟨read, long⟩ | ⟨read, short, found⟩) | ⟨text, e, read, done, faults⟩)
    · exact .inl ⟨_, unreadable, rfl⟩
    · exact .inr ⟨_, read, .inl ⟨_, .inl ⟨long, rfl⟩, rfl, Stop.not_reported_numeral⟩⟩
    · exact .inr ⟨_, read, .inl ⟨_, .inr ⟨short, _, found, rfl⟩, rfl, Stop.not_reported_rejected _⟩⟩
    · exact .inr ⟨text, read, .inr ⟨e, done, faults⟩⟩

theorem faults_readConfig (there : s.store.holds p) :
    (s.readConfig p).Faults stop ↔ s.store.FaultyJson p stop := by
  unfold readConfig
  rw [faults_bind_of_ok rfl]
  refine faults_readJson there fun v stop => ?_
  split
  · rw [faults_mapError]
    rintro ⟨issues, -, rfl, unreported⟩
    exact unreported (Stop.reported_failure _)
  · exact not_faults_failure _

/-- Where settings are read from, if anything is there: the file given, or else the one that the
variable names if it is there, or else that of the project. -/
def settingsPath (s : Surroundings) (given project : Option Path) : Path :=
  let own := (project.getD ⟨.folder, []⟩).child configName
  match given, s.config with
  | some p, _ => p
  | none, some name => if !name.isEmpty && s.store.holds (.read name) then .read name else own
  | none, none => own

theorem faults_projectConfig (project : Path) : (s.projectConfig project).Faults stop ↔
    s.store.holds (project.child configName) ∧ s.store.FaultyJson (project.child configName) stop := by
  unfold projectConfig
  simp only
  split
  · next there => rw [faults_readConfig there, and_iff_right there]
  · next absent =>
    rw [faults_bind_of_ok rfl]
    exact ⟨fun faults => absurd faults (not_faults_of_ok rfl), fun faults => absurd faults.1 absent⟩

theorem faults_loadConfig (given project : Option Path) : (s.loadConfig given project).Faults stop ↔
    s.store.holds (s.settingsPath given project) ∧ s.store.FaultyJson (s.settingsPath given project) stop := by
  unfold loadConfig settingsPath
  cases given with
  | some p =>
    simp only
    split
    · next there => rw [faults_readConfig there, and_iff_right there]
    · next absent =>
      exact ⟨fun faults => absurd faults (not_faults_failure _), fun faults => absurd faults.1 absent⟩
  | none =>
    cases s.config with
    | none => exact faults_projectConfig _
    | some name =>
      simp only
      cases empty : name.isEmpty with
      | true => exact faults_projectConfig _
      | false =>
        simp only [Bool.false_eq_true, if_false, Bool.not_false, Bool.true_and]
        split
        · next there => rw [faults_readConfig there, and_iff_right there]
        · -- A name that leads nowhere is noted and passed over.
          rw [faults_bind_of_ok rfl]
          exact faults_projectConfig _

theorem faults_ofStyles (walk : List (Visit Nat)) (items : List Json) :
    ¬(Traced.ofExcept ((Binding.ofStyles walk items).mapError .ofBinding)).Faults stop := by
  rw [faults_mapError]
  rintro ⟨fault, -, rfl, unreported⟩
  cases fault with
  | mismatch elements styles => exact unreported (Stop.reported_failure _)
  | notObject position => exact unreported (Stop.reported_failure _)

theorem faults_loadSnapshot (page styles : Path) (overlayStem : String) :
    (s.loadSnapshotBy reader page styles overlayStem).Faults stop ↔
      s.store.holds page ∧ s.store.holds styles ∧ (s.store.FaultyPage reader page stop ∨
        ∃ text e, s.store.read page = .ok text ∧ reader.page text = .ok e ∧
          s.store.FaultyJson styles stop) := by
  unfold loadSnapshotBy
  cases found : [page, styles].find? fun p => !s.store.holds p with
  | some p =>
    refine ⟨fun faults => absurd faults (not_faults_failure _), fun ⟨pageThere, stylesThere, _⟩ => ?_⟩
    have absent := List.find?_some found
    rcases List.mem_cons.mp (List.mem_of_find?_eq_some found) with rfl | member
    · simp [pageThere] at absent
    · obtain rfl := List.mem_singleton.mp member
      simp [stylesThere] at absent
  | none =>
    have there : s.store.holds page = true ∧ s.store.holds styles = true := by
      simpa using found
    simp only [there, true_and]
    rw [faults_readPage there.1]
    refine or_congr_right (exists_congr fun text => exists_congr fun e =>
      and_congr_right fun _ => and_congr_right fun _ => ?_)
    refine faults_readJson there.2 fun v stop => ?_
    split
    · rw [faults_bind_of_ok rfl, faults_bind]
      rintro (faults | ⟨b, -, faults⟩)
      · exact faults_ofStyles _ _ faults
      · exact not_faults_of_ok rfl faults
    · exact not_faults_failure _

/-- Loads the settings, and with them the page and its styles. -/
def load (reader : PageReader) (s : Surroundings) (given project : Option Path) (page styles : Path) :
    Traced (Config × Element Nat × Binding Nat) := do
  let config ← s.loadConfig given project
  let (e, b) ← s.loadSnapshotBy reader page styles config.overlayStem
  return (config, e, b)

/-- What stops the loading without a report: the first file at fault, in the order in which the
files are read. The page and its styles are looked for before either is read. -/
inductive FaultyFiles (reader : PageReader) (s : Surroundings) (given project : Option Path)
    (page styles : Path) : Stop → Prop
  | settings {stop : Stop} : s.store.holds (s.settingsPath given project) →
      s.store.FaultyJson (s.settingsPath given project) stop → FaultyFiles reader s given project page styles stop
  | page {config : Config} {stop : Stop} : (s.loadConfig given project).result = .ok config →
      s.store.holds page → s.store.holds styles → s.store.FaultyPage reader page stop →
      FaultyFiles reader s given project page styles stop
  | styles {config : Config} {text : String} {e : Element Nat} {stop : Stop} :
      (s.loadConfig given project).result = .ok config → s.store.holds page → s.store.holds styles →
      s.store.read page = .ok text → reader.page text = .ok e → s.store.FaultyJson styles stop →
      FaultyFiles reader s given project page styles stop

theorem faults_load {given project : Option Path} {page styles : Path} :
    (s.load reader given project page styles).Faults stop ↔ s.FaultyFiles reader given project page styles stop := by
  have loaded (config : Config) : (do
      let (e, b) ← s.loadSnapshotBy reader page styles config.overlayStem
      return (config, e, b)).Faults stop ↔
        (s.loadSnapshotBy reader page styles config.overlayStem).Faults stop := by
    rw [faults_bind, or_iff_left]
    rintro ⟨⟨e, b⟩, -, faults⟩
    exact not_faults_of_ok rfl faults
  unfold load
  rw [faults_bind, faults_loadConfig]
  simp only [loaded, faults_loadSnapshot]
  constructor
  · rintro (⟨there, faulty⟩ | ⟨config, read, pageThere, stylesThere, faulty | ⟨text, e, done, tree, faulty⟩⟩)
    · exact .settings there faulty
    · exact .page read pageThere stylesThere faulty
    · exact .styles read pageThere stylesThere done tree faulty
  · rintro (⟨there, faulty⟩ | ⟨read, pageThere, stylesThere, faulty⟩ |
      ⟨read, pageThere, stylesThere, done, tree, faulty⟩)
    · exact .inl ⟨there, faulty⟩
    · exact .inr ⟨_, read, pageThere, stylesThere, .inl faulty⟩
    · exact .inr ⟨_, read, pageThere, stylesThere, .inr ⟨_, _, done, tree, faulty⟩⟩

end Surroundings

namespace Program

variable {reader : PageReader}

theorem clip_result (s : Surroundings) (r : Request) : (clip reader s r).result =
    (s.load reader r.config none r.page r.styles).result.map fun (config, e, b) =>
      Clip.ofElement config b.resolve e := by
  unfold clip Surroundings.load
  simp only [Traced.result_bind]
  cases (s.loadConfig r.config none).result with
  | error stop => rfl
  | ok config =>
    simp only [Except.bind]
    cases (s.loadSnapshotBy reader r.page r.styles config.overlayStem).result with
    | error stop => rfl
    | ok loaded => rfl

/-- How a run ends by what its loading gives, on a machine without limits of its own: a failure is
printed below the log and gives the exit code, and a fault has neither. -/
structure Ends (reader : PageReader) (s : Surroundings) (r : Request) (o : Outcome) : Prop where
  reported : ∀ f, (s.load reader r.config none r.page r.styles).result = .error (.failure f) →
    (o.exitCode : Int) = f.report.exitCode ∧ o.output = "" ∧
      (∃ logged, o.errors = logged ++ f.report.format s.colored ++ "\n") ∧ o.fault = none
  faulty : ∀ stop, s.FaultyFiles reader r.config none r.page r.styles stop →
    o.exitCode = 1 ∧ o.output = "" ∧ o.fault = some stop
  /-- Only the output file may still stop a run whose files are loaded. -/
  loaded : ∀ v, (s.load reader r.config none r.page r.styles).result = .ok v →
    (o.exitCode = 0 ∧ o.fault = none) ∨
      ∃ p f, r.output = some p ∧ o.exitCode = 1 ∧ o.fault = some (.file f)

theorem toNat_exitCode (f : Failure) : (f.report.exitCode.toNat : Int) = f.report.exitCode := by
  cases f <;> rfl

theorem execute_ends {s : Surroundings} {r : Request} {store : Store} {l : Log.Logger}
    (apart : (r.quiet && r.verbose) = false)
    (opened : openLog s.store (settings s.folder r) .start = .ok (store, l)) :
    Ends reader { s with store := store } r (executeBy reader s r) := by
  have result := @clip_result reader { s with store := store } r
  unfold executeBy
  rw [apart, opened]
  simp only [Bool.false_eq_true, if_false]
  refine ⟨fun f failed => ?_, fun stop faulty => ?_, fun v done => ?_⟩
  · rw [failed] at result
    rw [result]
    exact ⟨toNat_exitCode f, rfl, ⟨_, rfl⟩, rfl⟩
  · obtain ⟨stopped, unreported⟩ := Surroundings.faults_load.mpr faulty
    rw [stopped] at result
    rw [result]
    cases stop with
    | failure f => exact absurd (Stop.reported_failure f) unreported
    | file f => exact ⟨rfl, rfl, rfl⟩
    | rejected cause => exact ⟨rfl, rfl, rfl⟩
    | numeral => exact ⟨rfl, rfl, rfl⟩
    | log => exact ⟨rfl, rfl, rfl⟩
  · rw [done] at result
    rw [result]
    simp only [Except.map, deliver]
    cases r.output with
    | none => exact .inl ⟨rfl, rfl⟩
    | some p =>
      simp only
      split
      · next f _ => exact .inr ⟨p, f, rfl, rfl, rfl⟩
      · exact .inl ⟨rfl, rfl⟩

/-- Only a log file may keep the log from being opened. -/
theorem openLog_without_file (s : Store) (folder : String) {r : Request} (unfiled : r.logFile = none) :
    ∃ l, openLog s (settings folder r) .start = .ok (s, l) := by
  have file : (settings folder r).file = none := by simp [settings, unfiled]
  obtain ⟨level, leveled⟩ : ∃ level, (settings folder r).consoleLevel = some level := by
    unfold Log.Settings.consoleLevel
    split
    · exact ⟨.debug, rfl⟩
    · exact ⟨.info, rfl⟩
  obtain ⟨l, ready⟩ : ∃ l, Log.Logger.start.setup (settings folder r) = some l := by
    simp only [Log.Logger.setup, file, leveled]
    split
    · exact ⟨_, rfl⟩
    · exact ⟨_, rfl⟩
  refine ⟨l, ?_⟩
  unfold openLog
  rw [file, ready]
  rfl

end Program

/-- Whatever reader the page has, loading stops without a report where a file is at fault, and on a
machine without limits of its own nowhere else. A run whose log can be opened ends by what its
loading gives. -/
theorem load_accounted (reader : PageReader) (s : Surroundings) :
    (∀ given project page styles stop,
      ((s.load reader given project page styles).result = .error stop ∧ ∀ f, stop ≠ .failure f) ↔
        s.FaultyFiles reader given project page styles stop) ∧
    ∀ r : Program.Request, (r.quiet && r.verbose) = false →
      (∃ store l, Program.openLog s.store (Program.settings s.folder r) .start = .ok (store, l) ∧
        Program.Ends reader { s with store := store } r (Program.executeBy reader s r)) ∨
      ∃ fault, r.logFile ≠ none ∧
        Program.openLog s.store (Program.settings s.folder r) .start = .error fault := by
  refine ⟨fun given project page styles stop => ?_, fun r apart => ?_⟩
  · rw [← Surroundings.faults_load, Traced.Faults, Stop.Reported, not_exists]
  · cases opened : Program.openLog s.store (Program.settings s.folder r) .start with
    | ok log => exact .inl ⟨log.1, log.2, rfl, Program.execute_ends apart opened⟩
    | error fault =>
      refine .inr ⟨fault, fun unfiled => ?_, rfl⟩
      obtain ⟨l, done⟩ := Program.openLog_without_file s.store s.folder unfiled
      cases opened.symm.trans done

/-- A page of one byte that starts no character. -/
def undecodablePage : Surroundings where
  store := ⟨["/", "work"], [(["/", "work", "page.html"], ⟨#[0xFF]⟩),
    (["/", "work", "styles.json"], "[]".toUTF8)], []⟩
  folder := "/work"
  config := none
  colored := false

theorem undecodablePage_unreported :
    (undecodablePage.load .standard none none (.read "page.html") (.read "styles.json")).result =
      .error (.file .undecodable) ∧
    (Program.run undecodablePage ["export", "page.html", "styles.json"]).fault =
      some (.file .undecodable) :=
  ⟨rfl, rfl⟩

def pageRequest : Program.Request where
  page := .read "page.html"
  styles := .read "styles.json"
  config := none
  rendition := .raw
  output := none
  verbose := false
  quiet := false
  logFile := none
  logFormat := .text

theorem load_accounted_undecodable :
    undecodablePage.FaultyFiles .standard none none (.read "page.html") (.read "styles.json")
      (.file .undecodable) ∧
    (Program.execute undecodablePage pageRequest).exitCode = 1 ∧
    (Program.execute undecodablePage pageRequest).fault = some (.file .undecodable) := by
  obtain ⟨stops, runs⟩ := load_accounted .standard undecodablePage
  have faulty := (stops none none (.read "page.html") (.read "styles.json") (.file .undecodable)).mp
    ⟨rfl, nofun⟩
  rcases runs pageRequest rfl with ⟨store, l, opened, ends⟩ | ⟨fault, filed, -⟩
  · cases opened
    obtain ⟨code, -, stopped⟩ := ends.faulty _ faulty
    exact ⟨faulty, code, stopped⟩
  · exact absurd rfl filed

end Clipping
