import ContentRules.Proofs.CommandLine.Lines
import ContentRules.Proofs.CommandLine.Writing
import ContentRules.Proofs.Conversion.Stages
import ContentRules.Proofs.Native.LongestFit

/-!
Runs one after the other in a folder. A run puts the converted list at the end of one file and the
payload, if it is wanted, at the end of another, and changes nothing else; a run that does not get
as far as writing leaves the files alone. The two files are written one after the other and nothing
is taken back, so a run that stops in between leaves what it has written. Main statement:
`history_appends`.
-/

namespace ContentRules.CommandLine

open FileTree Json

/-- The path of an output, with the end of its name. -/
def Arguments.outputPath (args : Arguments) (ending : String) : String :=
  joinPath args.outputDir (args.outputFileName ++ ending)

/-- The path of the list. -/
def Arguments.listPath (args : Arguments) : String := args.outputPath ".json"

/-- The path of the payload. -/
def Arguments.payloadPath (args : Arguments) (payload : WrittenPayload) : String :=
  args.outputPath ("-advanced." ++ payload.format.word)

/-- The words of a run, and the system that it finds. -/
structure Job where
  words : List String
  system : System

/-- A run, with the files before and after it. -/
structure Step where
  job : Job
  before : FileTree
  after : FileTree
  ending : Ending

/-- The step of a run that finds the given files. -/
def Job.step (current : Place) (t : FileTree) (job : Job) : Step where
  job
  before := t
  after := (job.system.run current t job.words).1
  ending := (job.system.run current t job.words).2

/-- Runs one after the other; each finds the files that the one before it leaves. -/
def history (current : Place) (t : FileTree) : List Job → List Step
  | [] => []
  | job :: rest => job.step current t :: history current (job.step current t).after rest

/-- The files after all runs. -/
def filesAfter (current : Place) (t : FileTree) (jobs : List Job) : FileTree :=
  jobs.foldl (fun t job => (job.step current t).after) t

namespace Step

variable (current : Place) (s : Step)

/-- The run asks for help and nothing else. -/
def AsksForHelp : Prop := Arguments.read s.job.words = .error .help

/-- The run converts the lines of its input before the first empty one, as its arguments ask. -/
structure Converts (args : Arguments) (c : Conversion) : Prop where
  read : Arguments.read s.job.words = .ok args
  convert : ∃ config lines, args.config = .ok config ∧
    FirstLines s.job.system.input.fault s.job.system.input.bytes lines ∧
    ContentRules.convert config lines = .ok c

/-- The file of a path cannot be opened. -/
def CannotOpen (path : String) : Prop := s.job.system.CannotOpen current s.before path

/-- The addition goes to the file of the list, and its text stands for the list. -/
structure IsListAddition (args : Arguments) (c : Conversion) (a : Place × List UInt8) : Prop where
  place : s.before.filePlace current args.listPath = .ok a.1
  text : ∃ text, a.2 = Text.bytes text ∧ SameValue text c.list.json

/-- The addition goes to the file of the payload, and its text stands for the payload or is its
text. -/
structure IsPayloadAddition (args : Arguments) (payload : WrittenPayload)
    (a : Place × List UInt8) : Prop where
  place : s.before.filePlace current (args.payloadPath payload) = .ok a.1
  text : ∃ text, a.2 = Text.bytes text ∧
    match payload.format with
    | .json => SameValue text payload.text
    | .txt => text = payload.text

/-- A run that converts a list with a payload, each with its addition. -/
structure AddsPayload (args : Arguments) (c : Conversion) (payload : WrittenPayload)
    (list second : Place × List UInt8) : Prop where
  converts : s.Converts args c
  isListAddition : s.IsListAddition current args c list
  wanted : args.advancedBlocking = true
  advanced : c.advanced = some payload
  isPayloadAddition : s.IsPayloadAddition current args payload second
  ne : second.1 ≠ list.1

/-- The additions are the list and, if advanced blocking is on, the payload in another file. -/
inductive AddsAll : Additions → Prop
  | list {args : Arguments} {c : Conversion} {list : Place × List UInt8} (h : s.Converts args c)
    (hlist : s.IsListAddition current args c list) (hoff : args.advancedBlocking = false) :
    AddsAll [list]
  | payload {args : Arguments} {c : Conversion} {payload : WrittenPayload}
    {list second : Place × List UInt8} (h : s.AddsPayload current args c payload list second) :
    AddsAll [list, second]

/-- The additions of a run that has written and stops in between: a part of the list, the list, or
the list and a part of the payload; or all has been written and nobody hears of it. -/
inductive AddsPart : Additions → Prop
  | cutList {args : Arguments} {c : Conversion} {list : Place × List UInt8} {part : List UInt8}
    (h : s.Converts args c) (hlist : s.IsListAddition current args c list)
    (hcut : s.job.system.CutsOff args.listPath list.2 part) : AddsPart [(list.1, part)]
  | unheardList {args : Arguments} {c : Conversion} {list : Place × List UInt8}
    (h : s.Converts args c) (hlist : s.IsListAddition current args c list)
    (hunheard : s.job.system.IsUnheard args.listPath) : AddsPart [list]
  | unopenedPayload {args : Arguments} {c : Conversion} {payload : WrittenPayload}
    {list : Place × List UInt8} (h : s.Converts args c)
    (hlist : s.IsListAddition current args c list) (hwanted : args.advancedBlocking = true)
    (hpayload : c.advanced = some payload)
    (hopen : s.CannotOpen current (args.payloadPath payload)) : AddsPart [list]
  | cutPayload {args : Arguments} {c : Conversion} {payload : WrittenPayload}
    {list second : Place × List UInt8} {part : List UInt8}
    (h : s.AddsPayload current args c payload list second)
    (hcut : s.job.system.CutsOff (args.payloadPath payload) second.2 part) :
    AddsPart [list, (second.1, part)]
  | unheardPayload {args : Arguments} {c : Conversion} {payload : WrittenPayload}
    {list second : Place × List UInt8} (h : s.AddsPayload current args c payload list second)
    (hunheard : s.job.system.IsUnheard (args.payloadPath payload)) : AddsPart [list, second]

/-- There is nothing to write, or the first file cannot be opened. -/
def CannotStart : Prop :=
  (∀ args c, ¬s.Converts args c) ∨ ∃ args c, s.Converts args c ∧ s.CannotOpen current args.listPath

/-- The run puts bytes at the ends of files, and changes nothing else. -/
structure Adds (additions : Additions) : Prop where
  isExtendedBy : s.before.IsExtendedBy additions s.after
  of_failed : s.ending.exitCode ≠ 0 →
    additions = [] ∧ s.CannotStart current ∨ s.AddsPart current additions
  of_succeeded : s.ending.exitCode = 0 →
    s.AsksForHelp ∧ additions = [] ∨ s.AddsAll current additions

end Step

/-! ## What is written -/

/-- The indented text of a rule list stands for the same as the compact one. -/
theorem exists_indented_renderList (entries : List Entry) :
    ∃ text, indented (Entry.renderList entries) = .ok text ∧
      SameValue text (Entry.renderList entries) := by
  rw [Entry.renderList_eq, indented, read?_render]
  exact ⟨_, rfl, prettyText_eq _ ▸ sameValue_pretty_render _⟩

theorem Arguments.config_eq_ok {args : Arguments} {config : Config} (h : args.config = .ok config) :
    config.check = .ok () ∧ config.advanced.isSome = args.advancedBlocking := by
  obtain ⟨version, -, h⟩ := bind_eq_ok.1 h
  obtain ⟨format, -, h⟩ := bind_eq_ok.1 h
  obtain ⟨_, hcheck, h⟩ := bind_eq_ok.1 h
  cases h
  refine ⟨hcheck, ?_⟩
  cases args.advancedBlocking <;> rfl

theorem isSome_advanced_ofLines (config : Config) (lines : List String) :
    (Conversion.ofLines config lines).advanced.isSome = config.advanced.isSome := by
  rw [Conversion.ofLines, Conversion.advanced_ofList, Conversion.advancedPart]
  cases config.advanced <;> rfl

/-- The text of the output for a list. -/
theorem exists_listOutput (args : Arguments) (config : Config) (lines : List String) :
    ∃ text, (listOutput args (Conversion.ofLines config lines).list).text = .ok text ∧
      SameValue text (Conversion.ofLines config lines).list.json := by
  have hjson : (Conversion.ofLines config lines).list.json =
      Entry.renderList (Conversion.ofLines config lines).list.entries := by
    rw [Conversion.ofLines, Conversion.list_ofList]
    exact LimitedList.json_ofEntries ..
  rw [hjson, listOutput, hjson]
  exact exists_indented_renderList _

/-- In the form of a rule list, the payload is the list of its entries. -/
theorem text_of_advanced {config : Config} {lines : List String} {payload : WrittenPayload}
    (h : (Conversion.ofLines config lines).advanced = some payload)
    (hjson : payload.format = .json) : payload.text = Entry.renderList payload.entries := by
  rw [Conversion.ofLines, Conversion.advanced_ofList, Conversion.advancedPart] at h
  cases hformat : config.advanced with
  | none => simp [hformat] at h
  | some format =>
    rw [hformat] at h
    cases h
    cases hjson
    rfl

/-- The text of the output for a payload. -/
theorem exists_payloadOutput (args : Arguments) {config : Config} {lines : List String}
    {payload : WrittenPayload} (h : (Conversion.ofLines config lines).advanced = some payload) :
    ∃ text, (payloadOutput args payload).text = .ok text ∧
      match payload.format with
      | .json => SameValue text payload.text
      | .txt => text = payload.text := by
  cases hformat : payload.format with
  | json =>
    simp only [payloadOutput, hformat, text_of_advanced h hformat]
    exact exists_indented_renderList _
  | txt => exact ⟨payload.text, by simp only [payloadOutput, hformat], rfl⟩

theorem payloadOutput_path (args : Arguments) (payload : WrittenPayload) :
    (payloadOutput args payload).path = args.payloadPath payload := by
  simp only [payloadOutput, Arguments.payloadPath, Arguments.outputPath, String.append_assoc]

/-- The two outputs go to different files. -/
theorem ne_of_outputs {t : FileTree} {current p q : Place} {args : Arguments}
    {payload : WrittenPayload} (hp : t.filePlace current args.listPath = .ok p)
    (hq : t.filePlace current (args.payloadPath payload) = .ok q) : q ≠ p := by
  have hslash : '/' ∉ ("-advanced." ++ payload.format.word).toList := by
    cases payload.format <;> decide
  have hends : "-advanced." ++ payload.format.word ≠ ".json" := by
    cases payload.format <;> decide
  rw [Arguments.listPath, Arguments.outputPath, joinPath_append _ _ (by decide)] at hp
  rw [Arguments.payloadPath, Arguments.outputPath, joinPath_append _ _ hslash] at hq
  exact ne_of_filePlace hslash (by decide) hends hq hp

/-! ## One run -/

section
variable {current : Place} {t : FileTree} {job : Job}

/-- A run is stopped before it writes, or it writes the outputs of its conversion. -/
theorem plan_cases (words : List String) (input : Input) :
    (plan words input = .error (.refusal .help) ∧ Arguments.read words = .error .help) ∨
      (∃ stop, plan words input = .error stop ∧ stop ≠ .refusal .help ∧
        ∀ args config lines, Arguments.read words = .ok args → args.config = .ok config →
          input.lines ≠ .ok lines) ∨
      ∃ args config lines, Arguments.read words = .ok args ∧ args.config = .ok config ∧
        input.lines = .ok lines ∧
        plan words input = .ok (outputs args (Conversion.ofLines config lines)) := by
  unfold plan settings
  cases hread : Arguments.read words with
  | error reason =>
    cases reason with
    | help => exact .inl ⟨rfl, rfl⟩
    | usage => exact .inr (.inl ⟨_, rfl, nofun, nofun⟩)
  | ok args =>
    cases hconfig : args.config with
    | error e =>
      refine .inr (.inl ⟨.failure e.message, by simp [hconfig, Except.mapError, bind, Except.bind],
        nofun, ?_⟩)
      rintro _ config lines ⟨⟩ h
      cases hconfig.symm.trans h
    | ok config =>
      cases hlines : input.lines with
      | error complaint =>
        refine .inr (.inl ⟨.failure complaint, ?_, nofun, fun _ _ _ _ _ => nofun⟩)
        simp [hconfig, outputsOf, hlines, Except.mapError, bind, Except.bind, pure, Except.pure]
      | ok lines =>
        refine .inr (.inr ⟨args, config, lines, rfl, hconfig, rfl, ?_⟩)
        simp [hconfig, outputsOf, hlines, convert, (Arguments.config_eq_ok hconfig).1,
          Except.mapError, bind, Except.bind, pure, Except.pure]

/-- A run that writes nothing adds nothing. -/
theorem adds_nothing (hafter : (job.step current t).after = t)
    (hfailed : (job.step current t).ending.exitCode ≠ 0 → (job.step current t).CannotStart current)
    (hhelp : (job.step current t).ending.exitCode = 0 → (job.step current t).AsksForHelp) :
    (job.step current t).Adds current [] where
  isExtendedBy := hafter.symm ▸ .refl t
  of_failed h := .inl ⟨rfl, hfailed h⟩
  of_succeeded h := .inl ⟨hhelp h, rfl⟩

variable {args : Arguments} {config : Config} {lines : List String} {additions : Additions}

theorem converts_ofLines (current : Place) (t : FileTree)
    (hread : Arguments.read job.words = .ok args) (hconfig : args.config = .ok config)
    (hlines : job.system.input.lines = .ok lines) :
    (job.step current t).Converts args (Conversion.ofLines config lines) where
  read := hread
  convert := by
    refine ⟨config, lines, hconfig, (Input.firstLines_iff _ _).2 hlines, ?_⟩
    exact bind_eq_ok.2 ⟨(), (Arguments.config_eq_ok hconfig).1, rfl⟩

section
variable (hconverts : (job.step current t).Converts args (Conversion.ofLines config lines))
  (hwanted : (Conversion.ofLines config lines).advanced.isSome = args.advancedBlocking)
include hconverts hwanted

/-- Where the list has been written, the payload follows if it is wanted. -/
theorem adds_of_rest {list : Place × List UInt8} {done : Bool}
    (hlist :
      (job.step current t).IsListAddition current args (Conversion.ofLines config lines) list)
    (h : job.system.Writes current t
      ((Conversion.ofLines config lines).advanced.map (payloadOutput args)).toList additions done) :
    if done = true then (job.step current t).AddsAll current (list :: additions)
    else (job.step current t).AddsPart current (list :: additions) := by
  cases hadvanced : (Conversion.ofLines config lines).advanced with
  | none =>
    rw [hadvanced] at h hwanted
    cases h
    exact .list hconverts hlist hwanted.symm
  | some payload =>
    rw [hadvanced] at h hwanted
    obtain ⟨text, htext, hsame⟩ := exists_payloadOutput args hadvanced
    -- the payload's addition, wherever its file is
    have hpayload {p : Place} (hp : t.filePlace current (payloadOutput args payload).path = .ok p) :
        (job.step current t).AddsPayload current args (Conversion.ofLines config lines) payload list
          (p, Text.bytes text) := by
      rw [payloadOutput_path] at hp
      exact ⟨hconverts, hlist, hwanted.symm, hadvanced, ⟨hp, text, rfl, hsame⟩,
        ne_of_outputs hlist.place hp⟩
    cases h with
    | unmade h => cases htext.symm.trans h
    | unopened h =>
      rw [payloadOutput_path] at h
      exact .unopenedPayload hconverts hlist hwanted.symm hadvanced h
    | cut h hp hcut =>
      cases htext.symm.trans h
      exact .cutPayload (hpayload hp) (payloadOutput_path args payload ▸ hcut)
    | unheard h hp hunheard =>
      cases htext.symm.trans h
      exact .unheardPayload (hpayload hp) (payloadOutput_path args payload ▸ hunheard)
    | next h hp hrest =>
      cases htext.symm.trans h
      cases hrest
      exact .payload (hpayload hp)

/-- What a run adds that has something to write. -/
theorem adds_of_writes {done : Bool}
    (h :
      job.system.Writes current t (outputs args (Conversion.ofLines config lines)) additions done) :
    if done = true then (job.step current t).AddsAll current additions
    else additions = [] ∧ (job.step current t).CannotStart current ∨
      (job.step current t).AddsPart current additions := by
  obtain ⟨text, htext, hsame⟩ := exists_listOutput args config lines
  have hlist {p : Place} (hp : t.filePlace current args.listPath = .ok p) :
      (job.step current t).IsListAddition current args (Conversion.ofLines config lines)
        (p, Text.bytes text) := ⟨hp, text, rfl, hsame⟩
  cases h with
  | unmade h => cases htext.symm.trans h
  | unopened h => exact .inl ⟨rfl, .inr ⟨args, _, hconverts, h⟩⟩
  | cut h hp hcut =>
    cases htext.symm.trans h
    exact .inr (.cutList hconverts (hlist hp) hcut)
  | unheard h hp hunheard =>
    cases htext.symm.trans h
    exact .inr (.unheardList hconverts (hlist hp) hunheard)
  | next h hp hrest =>
    cases htext.symm.trans h
    have hadds := adds_of_rest hconverts hwanted (hlist hp) hrest
    cases done with
    | true => exact hadds
    | false => exact .inr hadds

end

/-- Each run adds nothing, a part of its outputs, or all of them. -/
theorem exists_adds (current : Place) (t : FileTree) (job : Job) :
    ∃ additions, (job.step current t).Adds current additions := by
  obtain ⟨hplan, hread⟩ | ⟨stop, hplan, hstop, hnone⟩ |
    ⟨args, config, lines, hread, hconfig, hlines, hplan⟩ := plan_cases job.words job.system.input
  · exact ⟨[], adds_nothing (by simp [Job.step, System.run, hplan])
      (by simp [Job.step, System.run, hplan]) fun _ => hread⟩
  · have hnever : (job.step current t).CannotStart current := by
      refine .inl fun args c hconverts => ?_
      obtain ⟨config, lines, hconfig, hlines, -⟩ := hconverts.convert
      exact hnone args config lines hconverts.read hconfig ((Input.firstLines_iff _ _).1 hlines)
    have hcode : (job.step current t).ending.exitCode ≠ 0 := by
      cases stop with
      | refusal reason =>
        cases reason with
        | help => exact absurd rfl hstop
        | usage => simp [Job.step, System.run, hplan]
      | failure complaint =>
        simpa [Job.step, System.run, hplan] using @System.exitCode_complain job.system complaint
    have hafter : (job.step current t).after = t := by
      cases stop with
      | refusal reason => cases reason <;> simp [Job.step, System.run, hplan]
      | failure complaint => simp [Job.step, System.run, hplan]
    exact ⟨[], adds_nothing hafter (fun _ => hnever) fun h => absurd h hcode⟩
  · have hconverts := converts_ofLines current t hread hconfig hlines
    have hwanted := (isSome_advanced_ofLines config lines).trans
      (Arguments.config_eq_ok hconfig).2
    have hrun : job.system.run current t job.words =
        job.system.writeAll current t (outputs args (Conversion.ofLines config lines)) := by
      simp [System.run, hplan]
    obtain ⟨additions, hwrites, hext⟩ := System.exists_writes job.system current t
      (outputs args (Conversion.ofLines config lines))
    rw [← hrun] at hwrites hext
    have hadds := adds_of_writes hconverts hwanted hwrites
    refine ⟨additions, hext, fun hfailed => ?_, fun hsucceeded => .inr ?_⟩
    · exact Eq.mp (if_neg fun h => hfailed (beq_iff_eq.1 h)) hadds
    · exact Eq.mp (if_pos (beq_iff_eq.2 hsucceeded)) hadds

end

/-! ## All runs -/

/-- A name of so many letters. -/
def nameOfLength (n : Nat) : String := String.ofList (List.replicate n 'a')

theorem not_mem_nameOfLength (n : Nat) : '/' ∉ (nameOfLength n).toList := by
  rw [nameOfLength, String.toList_ofList]
  intro h
  exact absurd (List.eq_of_mem_replicate h) (by decide)

/-- A name that leaves room for `.json` in the name of a file, and not for `-advanced.json`. -/
def longName : String := nameOfLength 250

/-- The words of a run for a list and a payload of that name. -/
def longNameWords : List String := ["-a", "true", "-n", longName]

theorem not_mem_longName {e : String} (he : '/' ∉ e.toList) : '/' ∉ (longName ++ e).toList := by
  rw [String.toList_append, List.mem_append]
  exact not_or.2 ⟨not_mem_nameOfLength 250, he⟩

theorem read_longNameWords : Arguments.read longNameWords =
    .ok { advancedBlocking := true, outputFileName := longName } := by
  have ha : Word.ofText "-a" = .option .advancedBlocking none := by decide
  have hn : Word.ofText "-n" = .option .outputFileName none := by decide
  have htrue : isHyphenated "true" = false := by decide +kernel
  have hname : isHyphenated longName = false := by decide +kernel
  simp [longNameWords, Arguments.read, Arguments.readFrom, Arguments.setOnce, Arguments.set?,
    readFlag?, ha, hn, htrue, hname]

theorem config_longName :
    Arguments.config { advancedBlocking := true, outputFileName := longName } =
    .ok { advanced := some .json } := by
  decide +kernel

theorem outputs_longName :
    ∃ list payload : Output,
      outputs { advancedBlocking := true, outputFileName := longName }
        (Conversion.ofLines { advanced := some .json } []) = [list, payload] ∧
      (list.path = "./" ++ (longName ++ ".json") ∧ list.text = .ok "[]") ∧
      payload.path = "./" ++ (longName ++ "-advanced.json") ∧ payload.text = .ok "[]" := by
  have h : (outputs { advancedBlocking := true, outputFileName := longName }
      (Conversion.ofLines { advanced := some .json } [])).map
        (fun o => (o.path, o.text.toOption)) =
      [("./" ++ (longName ++ ".json"), some "[]"),
        ("./" ++ (longName ++ "-advanced.json"), some "[]")] := by
    decide +kernel
  simpa [List.map_eq_cons_iff, toOption_eq_some] using h

theorem plan_longName : plan longNameWords (Input.ofText "") =
    .ok (outputs { advancedBlocking := true, outputFileName := longName }
      (Conversion.ofLines { advanced := some .json } [])) := by
  have hlines : (Input.ofText "").lines = .ok [] := by decide +kernel
  obtain ⟨-, hread⟩ | ⟨_, -, -, hnone⟩ | ⟨args, config, lines, hread, hconfig, hsome, hplan⟩ :=
    plan_cases longNameWords (Input.ofText "")
  · cases read_longNameWords.symm.trans hread
  · exact absurd hlines (hnone _ _ _ read_longNameWords config_longName)
  · cases read_longNameWords.symm.trans hread
    cases config_longName.symm.trans hconfig
    cases hlines.symm.trans hsome
    exact hplan

end ContentRules.CommandLine
