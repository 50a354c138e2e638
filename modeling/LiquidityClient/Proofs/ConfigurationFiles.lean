import LiquidityClient.Configuration.Storage
import LiquidityClient.Proofs.ConfigurationSettings
import LiquidityClient.Proofs.Operations
import LiquidityClient.Simulation.FileSystem

/-!
# Configuration files

Loading asks whether there is a file, and reads it (`Configuration.loads_some`,
`Configuration.loads_none`). Saving makes the directory of the file and writes the text of the
configuration, and ends well if neither is refused (`Configuration.runs_save_ok_iff`); where there
is no such text, nothing is asked (`Configuration.save_eq_error`). Which answers a file system gives
is left open in all of them.

In the file system in memory a file stands where a path leads before and after it is written, since
only what is no directory is replaced (`locate_put`); so what is written is read back
(`exists_entryAt?_of_write`), and loading after saving gives the configuration that was saved
(`Configuration.load_merges`).
-/

namespace LiquidityClient

/-! ## Files that are written and read -/

namespace Simulation.FileSystem

variable {files files' : FileSystem} {position : List NativeText}

theorem entryAt?_put_of_ne {other : List NativeText} (entry : FileEntry) (h : other ≠ position) :
    (files.put position entry).entryAt? other = files.entryAt? other := by
  have hlookup : (files.put position entry).entries.lookup other = files.entries.lookup other := by
    rw [put, List.lookup_cons, beq_false_of_ne h]
    dsimp only
    induction files.entries with
    | nil => rfl
    | cons first rest ih =>
      rw [List.filter_cons, List.lookup_cons]
      split_ifs with hfirst
      · rw [List.lookup_cons, ih]
      · have heq : first.1 = position := by simpa using hfirst
        rw [ih, heq, beq_false_of_ne h]
  unfold entryAt?
  rw [hlookup]
  rfl

/-- Where no directory stands, an entry that is put stands. -/
theorem entryAt?_put (entry : FileEntry) (h : files.entryAt? position ≠ some .directory) :
    (files.put position entry).entryAt? position = some entry := by
  have hfixed : ¬(position.isEmpty ∨ position = files.workingDirectory) :=
    fun hfixed => h (if_pos hfixed)
  exact (if_neg hfixed).trans List.lookup_cons_self

/-- Names lead where they led before a file was put, since no directory is replaced. -/
theorem follow_put (entry : FileEntry) (h : files.entryAt? position ≠ some .directory)
    {names start target : List NativeText} (hfollow : files.follow start names = .ok target) :
    (files.put position entry).follow start names = .ok target := by
  induction names generalizing start with
  | nil => exact hfollow
  | cons name names ih =>
    unfold follow at hfollow ⊢
    cases hentry : files.entryAt? start with
    | none =>
      rw [hentry] at hfollow
      cases hfollow
    | some found =>
      rw [hentry] at hfollow
      cases found with
      | file contents => cases hfollow
      | directory =>
        have hne : start ≠ position := by
          rintro rfl
          exact h hentry
        rw [entryAt?_put_of_ne entry hne, hentry]
        exact ih hfollow

theorem locate_put (entry : FileEntry) (h : files.entryAt? position ≠ some .directory)
    {path : NativeText} {target : List NativeText} (hlocate : files.locate path = .ok target) :
    (files.put position entry).locate path = .ok target := by
  unfold locate at hlocate ⊢
  split_ifs at hlocate ⊢ with hzero hempty
  exact follow_put entry h hlocate

theorem write_eq_ok_iff {path : NativeText} {contents : Bytes} :
    files.write path contents = .ok files' ↔ path.bytes.getLast? ≠ some FilePath.slash ∧ ∃ position,
      files.locate path = .ok position ∧ files.entryAt? position ≠ some .directory ∧
        files' = files.put position (.file contents) := by
  by_cases hslash : path.bytes.getLast? = some FilePath.slash
  · simp [write, hslash, throw, throwThe, MonadExceptOf.throw, bind, Except.bind]
  cases hlocate : files.locate path with
  | error e => simp [write, hslash, hlocate, bind, Except.bind]
  | ok position =>
    cases hentry : files.entryAt? position with
    | none => simp [write, hslash, hlocate, hentry, bind, Except.bind, pure, Except.pure, eq_comm]
    | some entry =>
      cases entry with
      | directory =>
        simp [write, hslash, hlocate, hentry, throw, throwThe, MonadExceptOf.throw, bind,
          Except.bind]
      | file old =>
        simp [write, hslash, hlocate, hentry, bind, Except.bind, pure, Except.pure, eq_comm]

/-- A program over files goes on with what it is answered. -/
theorem run_ask {α : Type} {r : FileRequest} {reply : Files.Reply r}
    (next : Files.Reply r → Program Files α) (h : files.answer r = (some reply, files')) :
    run (.ask r next) files = run (next reply) files' :=
  Program.run_ask next h

theorem answer_probe {path : NativeText} {contents : Bytes}
    (hlocate : files.locate path = .ok position)
    (hentry : files.entryAt? position = some (.file contents)) :
    files.answer (.probe path) = (some true, files) := by
  simp [answer, hlocate, hentry]

theorem answer_read {path : NativeText} {contents : Bytes}
    (hlocate : files.locate path = .ok position)
    (hentry : files.entryAt? position = some (.file contents)) :
    files.answer (.read path) = (some (.ok contents), files) := by
  simp [answer, read, hlocate, hentry, bind, Except.bind, pure, Except.pure]

/-- What is written stands at the end of the path. -/
theorem exists_entryAt?_of_write {path : NativeText} {contents : Bytes}
    (h : files.write path contents = .ok files') :
    ∃ position, files'.locate path = .ok position ∧
      files'.entryAt? position = some (.file contents) := by
  obtain ⟨-, position, hlocate, hentry, rfl⟩ := write_eq_ok_iff.1 h
  exact ⟨position, locate_put _ hentry hlocate, entryAt?_put _ hentry⟩

end Simulation.FileSystem

/-! ## Loading and saving -/

open Program

namespace Configuration

variable {c : Configuration} {path : NativeText}

/-- What loading asks where there is a file with these contents, or none. -/
def reading (path : NativeText) : Option Bytes → Transcript Files
  | none => [⟨.probe path, some false⟩]
  | some contents => [⟨.probe path, some true⟩, ⟨.read path, some (.ok contents)⟩]

/-- Loading ends with this outcome, where there is a file with these contents, or none. -/
def Loads (path : NativeText) (found : Option Bytes)
    (outcome : Except Fault Configuration) : Prop :=
  ∀ result, Runs (load path) (reading path found) result ↔ result = some outcome

theorem loads_of_runs {found : Option Bytes} {outcome : Except Fault Configuration}
    (h : Runs (load path) (reading path found) (some outcome)) : Loads path found outcome := by
  intro result
  constructor
  · exact fun hresult => (hresult.unique h (rfl : _ ++ [] = _ ++ [])).2
  · rintro rfl
    exact h

theorem loads_none (path : NativeText) : Loads path none (.ok {}) :=
  loads_of_runs (.answered (.pure _))

theorem loads_some {contents : Bytes} {text : String} (h : Utf8.decode? contents = some text) :
    Loads path (some contents) (ofText path text) := by
  have hread : Runs (Files.readText path) [⟨.read path, some (.ok contents)⟩]
      (some (.ok text)) := by
    refine .answered ?_
    dsimp only [Program.bind]
    rw [h]
    exact .pure _
  exact loads_of_runs (.answered (hread.bind (.pure _)))

/-- A file that is no text cannot be loaded. -/
theorem loads_notText {contents : Bytes} (h : Utf8.decode? contents = none) :
    Loads path (some contents)
      (.error (.configuration ("read " ++ path.display ++ ": " ++ Files.notText))) := by
  have hread : Runs (Files.readText path) [⟨.read path, some (.ok contents)⟩]
      (some (.error Files.notText)) := by
    refine .answered ?_
    dsimp only [Program.bind]
    rw [h]
    exact .pure _
  exact loads_of_runs (.answered (hread.bind (.pure _)))

/-- What saving asks where nothing is refused, for the directory of the file and for the file. -/
def writing (path : NativeText) (contents : Bytes) : Transcript Files :=
  (match FilePath.parent? path with
    | none => []
    | some parent => [⟨.createDirectories parent, some (.ok ())⟩]) ++
  [⟨.write path contents, some (.ok ())⟩]

/-- A request that can be refused ends well if it is not. -/
theorem runs_attempt_ok_iff {request : FileRequest} {answered : Files.Reply request}
    {next : Files.Reply request → Program Files (Except Fault Unit)} {log : Transcript Files}
    (hanswered : next answered = .pure (.ok ()))
    (hrefused : ∀ reply, reply ≠ answered → ∃ cause, next reply = .pure (.error cause)) :
    Runs ((Program.request (I := Files) request).bind next) log (some (.ok ())) ↔
      log = [⟨request, some answered⟩] := by
  rw [runs_bind_some_iff]
  constructor
  · rintro ⟨reply, asked, rest, rfl, hasked, hrest⟩
    by_cases hreply : reply = answered
    · rw [hreply, hanswered] at hrest
      rw [hasked.request_cases, hreply, (runs_pure_iff.1 hrest).1, List.append_nil]
    · obtain ⟨cause, hcause⟩ := hrefused reply hreply
      rw [hcause] at hrest
      cases (runs_pure_iff.1 hrest).2
  · rintro rfl
    refine ⟨answered, _, [], (List.append_nil _).symm, .answered (.pure _), ?_⟩
    rw [hanswered]
    exact .pure _

theorem runs_createParent_ok_iff {log : Transcript Files} :
    Runs (createParent path) log (some (.ok ())) ↔
      log = match FilePath.parent? path with
        | none => []
        | some parent => [⟨.createDirectories parent, some (.ok ())⟩] := by
  unfold createParent
  cases FilePath.parent? path with
  | none => exact runs_pure_iff.trans (and_iff_left rfl)
  | some parent =>
    refine runs_attempt_ok_iff rfl fun reply hreply => ?_
    obtain e | _ := reply
    · exact ⟨_, rfl⟩
    · exact absurd rfl hreply

theorem runs_writeText_ok_iff {text : String} {log : Transcript Files} :
    Runs (writeText path text) log (some (.ok ())) ↔
      log = [⟨.write path (Utf8.encode text), some (.ok ())⟩] := by
  refine runs_attempt_ok_iff rfl fun reply hreply => ?_
  obtain e | _ := reply
  · exact ⟨_, rfl⟩
  · exact absurd rfl hreply

/-- Saving makes the directory of the file and then writes the text. -/
theorem save_eq {text : String} (h : c.render = .ok text) (path : NativeText) :
    c.save path = (createParent path).bind fun
      | .error cause => .pure (.error cause)
      | .ok () => writeText path text := by
  rw [save, h]
  rfl

/-- Where there is no text, saving asks for nothing. -/
theorem save_eq_error {e : WriteError} (h : c.render = .error e) (path : NativeText) :
    c.save path = .pure (.error (.configuration ("serialize: " ++ e.message))) := by
  rw [save, h]
  rfl

/-- Saving ends well where no request is refused. -/
theorem runs_save_ok_iff {text : String} (h : c.render = .ok text) {log : Transcript Files} :
    Runs (c.save path) log (some (.ok ())) ↔ log = writing path (Utf8.encode text) := by
  rw [save_eq h, runs_bind_some_iff]
  constructor
  · rintro ⟨cause | _, made, rest, rfl, hmade, hrest⟩
    · cases (runs_pure_iff.1 hrest).2
    · rw [runs_createParent_ok_iff.1 hmade, runs_writeText_ok_iff.1 hrest]
      rfl
  · rintro rfl
    exact ⟨.ok (), _, _, rfl, runs_createParent_ok_iff.2 rfl, runs_writeText_ok_iff.2 rfl⟩

/-! ## Loading what was saved -/

open Simulation (FileSystem)

theorem run_writeText_ok_iff {text : String} {files files' : FileSystem} :
    FileSystem.run (writeText path text) files = (some (.ok ()), files') ↔
      files.write path (Utf8.encode text) = .ok files' := by
  cases hwrite : files.write path (Utf8.encode text) with
  | error e =>
    have hanswer : files.answer (.write path (Utf8.encode text)) = (some (.error e), files) := by
      simp [FileSystem.answer, hwrite]
    have hrun : FileSystem.run (writeText path text) files =
        (some (.error (.configuration ("write " ++ path ++ ": " ++ e.message))), files) :=
      FileSystem.run_ask _ hanswer
    simp [hrun]
  | ok written =>
    have hanswer : files.answer (.write path (Utf8.encode text)) = (some (.ok ()), written) := by
      simp [FileSystem.answer, hwrite]
    have hrun : FileSystem.run (writeText path text) files = (some (.ok ()), written) :=
      FileSystem.run_ask _ hanswer
    simp [hrun]

/-- Saving in a file system ends well where the directory is made and the text is written. -/
theorem run_save_ok_iff {text : String} {files files' : FileSystem} (h : c.render = .ok text) :
    FileSystem.run (c.save path) files = (some (.ok ()), files') ↔
      ∃ made, FileSystem.run (createParent path) files = (some (.ok ()), made) ∧
        made.write path (Utf8.encode text) = .ok files' := by
  rw [save_eq h]
  constructor
  · intro hrun
    have hsteps := (run_bind (createParent path) _ _ files).symm.trans hrun
    split at hsteps
    · next result made hmade =>
      obtain cause | _ := result
      · cases hsteps
      · exact ⟨made, hmade, run_writeText_ok_iff.1 hsteps⟩
    · cases hsteps
  · rintro ⟨made, hmade, hwrite⟩
    refine (run_bind (createParent path) _ _ files).trans ?_
    unfold FileSystem.run at hmade
    rw [hmade]
    exact run_writeText_ok_iff.2 hwrite

theorem run_load {contents : Bytes} {text : String} {files : FileSystem}
    {position : List NativeText}
    (hlocate : files.locate path = .ok position)
    (hentry : files.entryAt? position = some (.file contents))
    (htext : Utf8.decode? contents = some text) :
    FileSystem.run (load path) files = (some (ofText path text), files) := by
  refine (FileSystem.run_ask _ (FileSystem.answer_probe hlocate hentry)).trans
    ((FileSystem.run_ask _ (FileSystem.answer_read hlocate hentry)).trans ?_)
  dsimp only [Program.bind]
  rw [htext]
  rfl

theorem render_eq (hc : c.NumbersFit) (hpaths : c.TextPaths Finset.univ) :
    c.render = .ok (Toml.render (tablesOf Finset.univ Finset.univ c)) := by
  obtain ⟨-, htables⟩ | ⟨hnot, -⟩ := toTables_eq_cases hc
  · rw [render, htables]
    rfl
  · exact absurd hpaths hnot

theorem render_eq_error (hc : c.NumbersFit) (hpaths : ¬c.TextPaths Finset.univ) :
    c.render = .error .path := by
  obtain ⟨htexts, -⟩ | ⟨-, htables⟩ := toTables_eq_cases hc
  · exact absurd htexts hpaths
  · rw [render, htables]
    rfl

/-- A text that sets some settings of a configuration gives these, and the standard values of all
others. -/
theorem ofText_of_setsExactly {S : Finset Setting} {text : String} {document : Toml.Table}
    (hc : c.NumbersFit) (hparse : Toml.parse? text = some document)
    (h : SetsExactly S c document) : ofText path text = .ok (c.override S {}) := by
  rw [ofText, parse?, hparse, Option.bind_some, ofTable?_of_setsExactly hc h]

/-- The text that is written of a configuration gives the configuration. -/
theorem ofText_render (hc : c.NumbersFit) (hpaths : c.TextPaths Finset.univ) :
    ofText path (Toml.render (tablesOf Finset.univ Finset.univ c)) = .ok c := by
  have hsets : SetsExactly Finset.univ c (Toml.tableOf (tablesOf Finset.univ Finset.univ c)) :=
    setsExactly_tablesOf hpaths fun f _ => Finset.mem_univ f.group
  rw [ofText_of_setsExactly hc (Toml.parse?_render (renderable_tablesOf _ _ c)) hsets,
    override_univ]

/-- Where nothing is there yet, a configuration can be saved in the working directory. -/
theorem exists_run_save (hc : c.NumbersFit) (hpaths : c.TextPaths Finset.univ) :
    ∃ files, FileSystem.run (c.save "lspc.toml") {} = (some (.ok ()), files) := by
  have hcreate : FileSystem.run (createParent "lspc.toml") {} = (some (.ok ()), {}) := by
    have hparent : FilePath.parent? "lspc.toml" = some ⟨[]⟩ := by decide
    have hanswer : FileSystem.answer {} (.createDirectories ⟨[]⟩) = (some (.ok ()), {}) := rfl
    unfold createParent
    rw [hparent]
    exact FileSystem.run_ask _ hanswer
  have hwrite (contents : Bytes) : FileSystem.write {} "lspc.toml" contents =
      .ok (FileSystem.put {} ["lspc.toml"] (.file contents)) :=
    FileSystem.write_eq_ok_iff.2 ⟨by decide, ["lspc.toml"], rfl, nofun, rfl⟩
  exact ⟨_, (run_save_ok_iff (render_eq hc hpaths)).2 ⟨{}, hcreate, hwrite _⟩⟩

/-- What the error says where a path is no text. -/
def pathFault : Fault :=
  .configuration "serialize: path contains invalid UTF-8 characters"

/-- Let all numbers of a configuration fit into signed words.

Where a file holds a document that sets some of the settings, each in the table of its group, to
their values in the configuration, whether or not the tables of other groups are there, loading
gives a configuration with these values, and the standard values of all other settings. There is
such a document for each set of settings whose paths are texts and any groups that have a table,
those of the settings among them.

If all paths are texts, saving the configuration ends well exactly if no request is refused, and
then a text has been written that gives the configuration when it is loaded. If a path is no text,
saving asks for nothing and fails. In a file system in memory, loading after saving gives the
configuration. Where there is no file, loading gives the standard values. -/
theorem load_merges (hc : c.NumbersFit) (path : NativeText) :
    (∀ (S : Finset Setting) contents text document, Utf8.decode? contents = some text →
        Toml.parse? text = some document → SetsExactly S c document →
        ∃ loaded, Loads path (some contents) (.ok loaded) ∧
          ∀ f, loaded.value f = if f ∈ S then c.value f else ({} : Configuration).value f) ∧
      (∀ (S : Finset Setting) (groups : Finset Group), c.TextPaths S →
        (∀ f ∈ S, f.group ∈ groups) →
        ∃ document, Toml.parse? (Toml.render (tablesOf S groups c)) = some document ∧
          SetsExactly S c document ∧
          ∀ g : Group, (document.lookup g.name).isSome ↔ g ∈ groups) ∧
      (c.TextPaths Finset.univ → ∃ text, (∀ log, Runs (c.save path) log (some (.ok ())) ↔
            log = writing path (Utf8.encode text)) ∧
          Loads path (some (Utf8.encode text)) (.ok c)) ∧
      (¬c.TextPaths Finset.univ → c.save path = .pure (.error pathFault)) ∧
      (∀ files files', FileSystem.run (c.save path) files = (some (.ok ()), files') →
        FileSystem.run (load path) files' = (some (.ok c), files')) ∧
      Loads path none (.ok {}) := by
  refine ⟨?merged, ?documents, ?saved, ?refused, ?restored, loads_none path⟩
  case merged =>
    intro S contents text document htext hparse hsets
    refine ⟨c.override S {}, ?_, value_override S c {}⟩
    rw [← ofText_of_setsExactly hc hparse hsets]
    exact loads_some htext
  case documents =>
    intro S groups hpaths hgroups
    refine ⟨_, Toml.parse?_render (renderable_tablesOf S groups c),
      setsExactly_tablesOf hpaths hgroups, fun g => ?_⟩
    rw [lookup_tableOf]
    split_ifs with hg <;> simp [hg]
  case saved =>
    intro hpaths
    refine ⟨_, fun log => runs_save_ok_iff (render_eq hc hpaths), ?_⟩
    rw [← ofText_render hc hpaths]
    exact loads_some (Utf8.decode?_encode _)
  case refused =>
    intro hpaths
    exact save_eq_error (render_eq_error hc hpaths) path
  case restored =>
    intro files files' hsave
    by_cases hpaths : c.TextPaths Finset.univ
    · obtain ⟨made, -, hwrite⟩ := (run_save_ok_iff (render_eq hc hpaths)).1 hsave
      obtain ⟨position, hlocate, hentry⟩ := FileSystem.exists_entryAt?_of_write hwrite
      rw [run_load hlocate hentry (Utf8.decode?_encode _), ofText_render hc hpaths]
    · rw [save_eq_error (render_eq_error hc hpaths)] at hsave
      cases hsave

/-- A configuration with quotation marks, a backslash, a line end and control characters in its
texts, an empty path, and the largest numbers that can be written. -/
def quoted : Configuration where
  provider :=
    { token := "\"\"\" \\ and\n\t\u0001\u007f"
      certificatePath := some "certificates/\u00e9.pem"
      callTimeoutSecs := 9223372036854775807 }
  node := { macaroonPath := some "" }
  swap := { csvHeight := 4294967295 }
  logging := { level := "" }

theorem numbersFit_quoted : quoted.NumbersFit := by
  intro f n hn
  cases f <;> cases hn <;> decide

theorem textPaths_quoted : quoted.TextPaths Finset.univ := by
  intro f _ path hvalue
  cases f <;> cases hvalue
  · exact ⟨_, NativeText.text?_ofString _⟩
  · exact ⟨_, NativeText.text?_ofString _⟩

/-- Of this configuration the token and the height are set in a document that has the tables of
three groups; and all of it is loaded after it was saved. -/
theorem load_merges_quoted :
    quoted.NumbersFit ∧
      (∃ text loaded,
        text = Toml.render
          (tablesOf {.providerToken, .csvHeight} {.provider, .swap, .logging} quoted) ∧
        Loads "lspc.toml" (some (Utf8.encode text)) (.ok loaded) ∧
        loaded.value .providerToken = quoted.value .providerToken ∧
        loaded.value .csvHeight = .number 4294967295 ∧
        loaded.value .providerCertificate = .path none ∧
        loaded.value .logLevel = .text "info") ∧
      ∃ files, FileSystem.run (quoted.save "lspc.toml") {} = (some (.ok ()), files) ∧
        FileSystem.run (load "lspc.toml") files = (some (.ok quoted), files) := by
  obtain ⟨hmerged, hdocuments, -, -, hrestored, -⟩ := load_merges numbersFit_quoted "lspc.toml"
  refine ⟨numbersFit_quoted, ?_, ?_⟩
  · have hpaths : quoted.TextPaths {.providerToken, .csvHeight} :=
      fun f _ => textPaths_quoted f (Finset.mem_univ f)
    obtain ⟨document, hparse, hsets, -⟩ :=
      hdocuments {.providerToken, .csvHeight} {.provider, .swap, .logging} hpaths (by decide)
    obtain ⟨loaded, hloads, hvalues⟩ :=
      hmerged _ _ _ _ (Utf8.decode?_encode _) hparse hsets
    exact ⟨_, loaded, rfl, hloads, hvalues .providerToken, hvalues .csvHeight,
      hvalues .providerCertificate, hvalues .logLevel⟩
  · obtain ⟨files, hsave⟩ := exists_run_save numbersFit_quoted textPaths_quoted
    exact ⟨files, hsave, hrestored {} files hsave⟩

/-- A path with a byte that stands in no text. -/
def unspelledPath : NativeText :=
  ⟨Utf8.encode "/tmp/" ++ [0xFF] ++ Utf8.encode ".pem"⟩

/-- The standard configuration with that path. -/
def unspelled : Configuration where
  provider := { certificatePath := some unspelledPath }

/-- The bytes of a document that would set that path. -/
def unspelledFile : Bytes :=
  Utf8.encode "[lsp]\ncert_path = \"" ++ unspelledPath.bytes ++ Utf8.encode "\"\n"

theorem not_textPaths_unspelled : ¬unspelled.TextPaths Finset.univ := by
  intro h
  obtain ⟨text, htext⟩ := h .providerCertificate (Finset.mem_univ _) unspelledPath rfl
  have hnone : unspelledPath.text? = none := by decide
  rw [hnone] at htext
  cases htext

/-- Saving the configuration fails and writes nothing, so that the standard values are loaded
afterwards. A file with the bytes of the path in it is no text, and cannot be loaded either. -/
theorem not_load_merges :
    unspelled.NumbersFit ∧
      FileSystem.run (unspelled.save "lspc.toml") {} = (some (.error pathFault), {}) ∧
      FileSystem.run (load "lspc.toml") {} = (some (.ok {}), {}) ∧
      {} ≠ unspelled ∧
      Loads "lspc.toml" (some unspelledFile)
        (.error (.configuration "read lspc.toml: stream did not contain valid UTF-8")) := by
  have hnumbers : unspelled.NumbersFit := by
    intro f n hn
    cases f <;> cases hn <;> decide
  have hsave : unspelled.save "lspc.toml" = .pure (.error pathFault) :=
    save_eq_error (render_eq_error hnumbers not_textPaths_unspelled) _
  have hload : Loads "lspc.toml" (some unspelledFile)
      (.error (.configuration
        ("read " ++ NativeText.display "lspc.toml" ++ ": " ++ Files.notText))) :=
    loads_notText (by decide)
  refine ⟨hnumbers, by rw [hsave]; rfl, ?_, by decide, ?_⟩
  · have hprobe : FileSystem.answer {} (.probe "lspc.toml") = (some false, {}) := rfl
    exact (FileSystem.run_ask _ hprobe).trans rfl
  · rwa [NativeText.display_ofString] at hload

end Configuration

end LiquidityClient
