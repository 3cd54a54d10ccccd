import LoginRehearsal.CommandLine.Program
import LoginRehearsal.Proofs.Except
import LoginRehearsal.Proofs.Text.Numeral

/-!
# Options over variables over defaults

Two readers look at the variables for the ports and for the certificate: the reader of the command line, where an
option was not given, and the reader of the settings, in any case. What the first one finds is what the second one
finds, so the settings are those of the environment with the options of the command line over them. But either may
refuse what it sees: the first one an empty path, the second one a number that an option has made superfluous.

* `Draft.Noted`: an option counts as used exactly if it has a value. Every step of the reading keeps that.
* `Options.parse_eq_ok_iff`: what a variable adds to the command line.
* `Options.overriding_standIn`: it adds nothing to what the settings have anyway.
* `Plan.options_over_variables`: the settings of every run, and that no variable behind an option shows in them.
-/
namespace LoginRehearsal

/-! ## Options that were given -/

/-- The options that have a setting of their own and a variable that stands in for them. -/
def Opt.ofSettings : List Opt := [.oauth1Port, .oauth2Port, .cert]

namespace Options

/-- Whether an option of a setting has a value. -/
def has (opts : Options) : Opt → Bool
  | .oauth1Port => opts.oauth1Port.isSome
  | .oauth2Port => opts.oauth2Port.isSome
  | .cert => opts.cert.isSome
  | _ => false

theorem has_withValue {opts opts' : Options} {o : Opt} {value : String} (h : opts.withValue o value = .ok opts') :
    ∀ x ∈ Opt.ofSettings, opts'.has x = (opts.has x || x == o) := by
  cases o with
  | oauth1Port | oauth2Port | cert | mode =>
    obtain ⟨found, -, rfl⟩ := map_eq_ok_iff.mp h
    simp [Opt.ofSettings, has]
  | noTls | logLevel | jsonLogs | help | version =>
    cases h
    simp [Opt.ofSettings, has]

end Options

namespace Draft

/-- An option of a setting is among those used exactly if it has a value. -/
def Noted (d : Draft) : Prop := ∀ o ∈ Opt.ofSettings, d.options.has o = d.used.contains o

variable {d d' : Draft}

theorem noted_initial : Noted .initial := by
  simp [Noted, initial, Options.initial, Opt.ofSettings, Options.has]

theorem Noted.take {o : Opt} {value : String} (hd : d.Noted) (h : d.take o value = .ok d') : d'.Noted := by
  unfold Draft.take at h
  split at h
  · cases h
  · obtain ⟨options, hoptions, rfl⟩ := map_eq_ok_iff.mp h
    intro x hx
    rw [Options.has_withValue hoptions x hx, hd x hx, Bool.eq_iff_iff]
    simp [noted]

theorem Noted.settle (hd : d.Noted) (h : d.settle = .ok d') : d'.Noted := by
  unfold Draft.settle at h
  split at h
  · cases h
    exact hd
  · cases h
  · exact Noted.take (d := { d with awaiting := none }) hd h

/-- An option without a value has no setting that a variable stands in for. -/
theorem Noted.raise {o : Opt} {long : Bool} (hd : d.Noted) (h : d.raise o long = .ok d') : d'.Noted := by
  unfold Draft.raise at h
  obtain ⟨settled, hsettled, h⟩ := eq_ok_of_bind h
  have hs := hd.settle hsettled
  have hother : ∀ {options : Options}, (∀ x, options.has x = settled.options.has x) → ∀ o ∉ Opt.ofSettings,
      Noted { settled.noted o with options } := fun hsame o ho x hx => by
    have hne : x ≠ o := fun he => ho (he ▸ hx)
    rw [hsame, hs x hx]
    simp [noted, hne]
  split at h
  · cases h
  · cases h
  · split at h
    · cases h
    · split at h
      · cases h
        exact hother (fun x => by cases x <;> rfl) _ (by decide)
      · cases h
        exact hother (fun x => by cases x <;> rfl) _ (by decide)
      · cases h
        exact hs

theorem Noted.long {text : List Char} (hd : d.Noted) (h : d.long text = .ok d') : d'.Noted := by
  unfold Draft.long at h
  dsimp only at h
  split at h
  · cases h
  · split at h
    · obtain ⟨settled, hsettled, h⟩ := eq_ok_of_bind h
      have hs := hd.settle hsettled
      split at h
      · exact hs.take h
      · cases h
        exact hs
    · split at h
      · cases h
      · exact hd.raise h

theorem Noted.short {letters : List Char} (hd : d.Noted) (h : d.short letters = .ok d') : d'.Noted := by
  induction letters generalizing d with
  | nil =>
    cases h
    exact hd
  | cons c rest ih =>
    rw [Draft.short] at h
    split at h
    · cases h
    · split at h
      · cases h
      · next hraise => exact ih (hd.raise hraise) h

theorem Noted.operand {text : String} (hd : d.Noted) (h : d.operand text = .ok d') : d'.Noted := by
  unfold Draft.operand at h
  split at h
  · cases h
    exact hd
  · cases h

theorem Noted.read {args : List String} (hd : d.Noted) (h : d.read args = .ok d') : d'.Noted := by
  induction args generalizing d with
  | nil =>
    cases h
    exact hd
  | cons argument rest ih =>
    unfold Draft.read at h
    split at h
    · split at h
      · cases h
        exact hd
      · cases h
    · obtain ⟨next, hnext, h⟩ := eq_ok_of_bind h
      exact ih (hd.long hnext) h
    · obtain ⟨next, hnext, h⟩ := eq_ok_of_bind h
      exact ih (hd.short hnext) h
    · obtain ⟨next, hnext, h⟩ := eq_ok_of_bind h
      exact ih (hd.operand hnext) h

end Draft

/-! ## Variables that stand in -/

namespace Options

/-- The value of an option: what was given, else what is read from the variable that stands in for it. -/
def standIn {α : Type} (given : Option α) (text : Option String) (read : String → Except Halt α) :
    Except Halt (Option α) :=
  match given, text with
  | none, some text => (read text).map some
  | given, _ => .ok given

end Options

namespace Draft

variable {d : Draft} {env : Environment} {o : Opt}

theorem fallBack_of_no_standIn (h : o.standIn? = none) : d.fallBack env o = .ok d := by
  rw [fallBack, h]
  exact ite_self _

/-- A variable stands in for an option that has no value, if having one and being used are the same. `g` takes the
value out of the options, and `p` puts it into them. -/
theorem fallBack_eq {α : Type} {name : String} {read : String → Except Halt α} {g : Options → Option α}
    {p : Options → Option α → Options} (hname : o.standIn? = some name)
    (hvalue : ∀ opts text, opts.withValue o text = (read text).map fun a => p opts (some a))
    (hput : p d.options (g d.options) = d.options) (hused : (g d.options).isSome = d.used.contains o) :
    d.fallBack env o =
      (Options.standIn (g d.options) (env name) read).map fun a => { d with options := p d.options a } := by
  rw [fallBack, hname, Option.bind_some, ← hused]
  cases hg : g d.options with
  | some a =>
    rw [hg] at hput
    rw [Option.isSome_some, if_pos rfl, Options.standIn]
    · simp [Except.map, hput]
    · rintro _ h
      cases h
  | none =>
    rw [hg] at hput
    rw [Option.isSome_none, if_neg Bool.false_ne_true]
    cases env name with
    | none => simp [Options.standIn, Except.map, hput]
    | some text =>
      simp only [Options.standIn, hvalue]
      cases read text <;> rfl

/-- The log level under an environment. -/
def levelUnder (d : Draft) (env : Environment) : String :=
  if d.used.contains .logLevel then d.options.logLevel else (env "RUST_LOG").getD d.options.logLevel

theorem fallBack_logLevel (d : Draft) :
    d.fallBack env .logLevel = .ok { d with options := { d.options with logLevel := d.levelUnder env } } := by
  unfold fallBack levelUnder
  split
  · rfl
  · have hname : Opt.logLevel.standIn?.bind env = env "RUST_LOG" := rfl
    rw [hname]
    cases env "RUST_LOG" <;> rfl

/-- All variables stand in, one after another. -/
theorem foldlM_fallBack (hd : d.Noted) :
    Opt.all.foldlM (fallBack env) d = (do
      let oauth1Port ← Options.standIn d.options.oauth1Port (env "OAM_OAUTH1_PORT") (Options.readPort .oauth1Port)
      let oauth2Port ← Options.standIn d.options.oauth2Port (env "OAM_OAUTH2_PORT") (Options.readPort .oauth2Port)
      let cert ← Options.standIn d.options.cert (env "OAM_CERT_PATH") (Options.readPath .cert)
      pure { d with
        options := { d.options with oauth1Port, oauth2Port, cert, logLevel := d.levelUnder env } }) := by
  have hfirst : d.fallBack env .oauth1Port = _ :=
    fallBack_eq (g := (·.oauth1Port)) (p := fun opts oauth1Port => { opts with oauth1Port }) rfl (fun _ _ => rfl) rfl
      (hd .oauth1Port (by decide))
  have hsecond : ∀ oauth1Port, fallBack env { d with options := { d.options with oauth1Port } } .oauth2Port = _ :=
    fun _ => fallBack_eq (g := (·.oauth2Port)) (p := fun opts oauth2Port => { opts with oauth2Port }) rfl
      (fun _ _ => rfl) rfl (hd .oauth2Port (by decide))
  have hcert : ∀ oauth1Port oauth2Port,
      fallBack env { d with options := { d.options with oauth1Port, oauth2Port } } .cert = _ := fun _ _ =>
    fallBack_eq (g := (·.cert)) (p := fun opts cert => { opts with cert }) rfl (fun _ _ => rfl) rfl
      (hd .cert (by decide))
  simp only [Opt.all, List.foldlM_cons, List.foldlM_nil]
  rw [hfirst]
  cases Options.standIn d.options.oauth1Port (env "OAM_OAUTH1_PORT") (Options.readPort .oauth1Port) with
  | error halt => rfl
  | ok oauth1Port =>
    rw [Except.map, ok_bind, ok_bind, hsecond]
    cases Options.standIn d.options.oauth2Port (env "OAM_OAUTH2_PORT") (Options.readPort .oauth2Port) with
    | error halt => rfl
    | ok oauth2Port =>
      rw [Except.map, ok_bind, ok_bind, hcert]
      cases Options.standIn d.options.cert (env "OAM_CERT_PATH") (Options.readPath .cert) with
      | error halt => rfl
      | ok cert =>
        rw [Except.map, ok_bind, ok_bind, fallBack_of_no_standIn rfl, ok_bind, fallBack_of_no_standIn rfl, ok_bind,
          fallBack_logLevel, ok_bind, fallBack_of_no_standIn rfl, ok_bind, fallBack_of_no_standIn rfl, ok_bind,
          fallBack_of_no_standIn rfl]
        rfl

/-- The reading of a command line, up to its end. -/
def ofArguments (args : List String) : Except Halt Draft := do (← initial.read args).settle

theorem noted_ofArguments {args : List String} (h : ofArguments args = .ok d) : d.Noted := by
  obtain ⟨read, hread, h⟩ := eq_ok_of_bind h
  exact (noted_initial.read hread).settle h

end Draft

namespace Options

variable {args : List String} {env : Environment} {given opts : Options}

theorem parse_eq_ok_iff :
    parse args env = .ok opts ↔
      ∃ d, Draft.ofArguments args = .ok d ∧
        (∃ oauth1Port, standIn d.options.oauth1Port (env "OAM_OAUTH1_PORT") (readPort .oauth1Port) = .ok oauth1Port ∧
          ∃ oauth2Port, standIn d.options.oauth2Port (env "OAM_OAUTH2_PORT") (readPort .oauth2Port) = .ok oauth2Port ∧
          ∃ cert, standIn d.options.cert (env "OAM_CERT_PATH") (readPath .cert) = .ok cert ∧
          { d.options with oauth1Port, oauth2Port, cert, logLevel := d.levelUnder env } = opts) := by
  have hparse : parse args env = (do
      let d ← Draft.ofArguments args
      let d ← Opt.all.foldlM (Draft.fallBack env) d
      pure d.options) := by
    rw [parse, Draft.ofArguments]
    cases Draft.initial.read args <;> rfl
  rw [hparse, bind_eq_ok_iff]
  refine exists_congr fun d => and_congr_right fun hd => ?_
  rw [Draft.foldlM_fallBack (Draft.noted_ofArguments hd)]
  simp only [bind_eq_ok_iff, pure, Except.pure, Except.ok.injEq]
  constructor
  · rintro ⟨_, ⟨oauth1Port, h1, oauth2Port, h2, cert, h3, rfl⟩, rfl⟩
    exact ⟨oauth1Port, h1, oauth2Port, h2, cert, h3, rfl⟩
  · rintro ⟨oauth1Port, h1, oauth2Port, h2, cert, h3, rfl⟩
    exact ⟨_, ⟨oauth1Port, h1, oauth2Port, h2, cert, h3, rfl⟩, rfl⟩

theorem standIn_none {α : Type} (given : Option α) (read : String → Except Halt α) :
    standIn given none read = .ok given := by
  cases given <;> rfl

/-- Without variables there is nothing but the command line. -/
theorem parse_alone_eq_ok_iff :
    parse args (fun _ => none) = .ok given ↔ ∃ d, Draft.ofArguments args = .ok d ∧ d.options = given := by
  rw [parse_eq_ok_iff]
  refine exists_congr fun d => and_congr_right fun _ => ?_
  have hlevel : d.levelUnder (fun _ => none) = d.options.logLevel := ite_self _
  simp only [standIn_none, Except.ok.injEq, exists_eq_left', hlevel]

/-! ## Two readers of one variable -/

/-- What is a port to the reader of the settings is the same port to the reader of the command line. -/
theorem readPort_of_readNat {o : Opt} {text : String} {n : Nat} (h : Numeral.readNat Numeral.maxU16 text = .ok n) :
    readPort o text = .ok n := by
  have hle := (Numeral.readNat_eq_ok_iff.mp h).2
  rw [readPort, Numeral.readInt_of_readNat (Numeral.readNat_mono (by decide) h)]
  simp [hle]

theorem standIn_port {name : String} {usual m : Nat} (o : Opt) (port : Option Nat)
    (h : Settings.readVariable env name usual (Settings.readNumber Numeral.maxU16) = .ok m) :
    ∃ found, standIn port (env name) (readPort o) = .ok found ∧ found.getD m = port.getD m := by
  cases port with
  | some port => exact ⟨some port, rfl, rfl⟩
  | none =>
    unfold Settings.readVariable at h
    cases hv : env name with
    | none => exact ⟨none, rfl, rfl⟩
    | some text =>
      rw [hv] at h
      have hport := readPort_of_readNat (o := o) (mapError_eq_ok_iff.mp h)
      exact ⟨some m, by rw [standIn, hport]; rfl, rfl⟩

/-- The empty text is no path to the reader of the command line, and no certificate to that of the settings. -/
theorem standIn_cert {usual path : Option String} (cert : Option String)
    (h : Settings.readVariable env "OAM_CERT_PATH" usual (.ok ∘ Settings.readCertificate) = .ok path)
    (hne : cert = none → env "OAM_CERT_PATH" ≠ some "") :
    ∃ found, standIn cert (env "OAM_CERT_PATH") (readPath .cert) = .ok found ∧ (found <|> path) = (cert <|> path) := by
  cases cert with
  | some cert => exact ⟨some cert, rfl, rfl⟩
  | none =>
    have hne := hne rfl
    unfold Settings.readVariable at h
    cases hv : env "OAM_CERT_PATH" with
    | none => exact ⟨none, rfl, rfl⟩
    | some text =>
      rw [hv] at h hne
      have htext : text.isEmpty = false := Bool.eq_false_iff.mpr fun he => hne (congrArg some (String.isEmpty_iff.mp he))
      refine ⟨some text, by simp [standIn, readPath, htext, Except.map], ?_⟩
      cases h
      simp [Settings.readCertificate, htext]

theorem ne_empty_of_standIn_cert {cert found : Option String} {text : Option String}
    (h : standIn cert text (readPath .cert) = .ok found) : cert = none → text ≠ some "" := by
  rintro rfl rfl
  cases h

/-- Settings with options over them. -/
def overriding (opts : Options) (e : Settings) : Settings :=
  { e with
    oauth1Port := opts.oauth1Port.getD e.oauth1Port
    oauth2Port := opts.oauth2Port.getD e.oauth2Port
    certificate := if opts.noTls then none else opts.cert <|> e.certificate }

theorem settings_eq_ok_iff {s : Settings} :
    opts.settings env = .ok s ↔ ∃ e, Settings.ofEnvironment env = .ok e ∧ s = opts.overriding e := by
  simp only [settings, bind_eq_ok_iff, pure, Except.pure, Except.ok.injEq]
  exact exists_congr fun e => and_congr_right fun _ => eq_comm

end Options

/-! ## Settings from an environment -/

namespace Settings

/-- The settings of an environment, one by one. -/
structure Reads (env : Environment) (e : Settings) : Prop where
  bindAddress : readVariable env "OAM_BIND_ADDR" standard.bindAddress readAddress = .ok e.bindAddress
  oauth1Port : readVariable env "OAM_OAUTH1_PORT" standard.oauth1Port (readNumber Numeral.maxU16) = .ok e.oauth1Port
  oauth2Port : readVariable env "OAM_OAUTH2_PORT" standard.oauth2Port (readNumber Numeral.maxU16) = .ok e.oauth2Port
  publicHost : readVariable env "OAM_PUBLIC_HOST" standard.publicHost (.ok ∘ some) = .ok e.publicHost
  certificate : readVariable env "OAM_CERT_PATH" standard.certificate (.ok ∘ readCertificate) = .ok e.certificate
  signalTimeout : readVariable env "OAM_SIGNAL_TIMEOUT_SECS" standard.signalTimeout
    (fun text => (readNumber Numeral.maxU64 text).map .ofSeconds) = .ok e.signalTimeout
  others : e = { standard with
    bindAddress := e.bindAddress
    oauth1Port := e.oauth1Port
    oauth2Port := e.oauth2Port
    publicHost := e.publicHost
    certificate := e.certificate
    signalTimeout := e.signalTimeout }

variable {env env' : Environment} {e e' : Settings}

theorem reads_of_ofEnvironment (h : ofEnvironment env = .ok e) : Reads env e := by
  obtain ⟨bindAddress, h1, h⟩ := eq_ok_of_bind h
  obtain ⟨oauth1Port, h2, h⟩ := eq_ok_of_bind h
  obtain ⟨oauth2Port, h3, h⟩ := eq_ok_of_bind h
  obtain ⟨publicHost, h4, h⟩ := eq_ok_of_bind h
  obtain ⟨certificate, h5, h⟩ := eq_ok_of_bind h
  obtain ⟨signalTimeout, h6, h⟩ := eq_ok_of_bind h
  cases h
  exact ⟨h1, h2, h3, h4, h5, h6, rfl⟩

/-- A setting is the same if its variable is. -/
theorem eq_of_readVariable {α : Type} {name : String} {usual a b : α} {read : String → Except SettingsError α}
    (hsame : env' name = env name) (ha : readVariable env name usual read = .ok a)
    (hb : readVariable env' name usual read = .ok b) : b = a := by
  unfold readVariable at ha hb
  rw [hsame, ha] at hb
  exact (Except.ok.inj hb).symm

end Settings

/-- What variables add to the options, they add to the settings anyway. -/
theorem Options.overriding_standIn {given : Options} {env : Environment} {e : Settings} (he : Settings.Reads env e)
    (hne : given.cert = none → env "OAM_CERT_PATH" ≠ some "") :
    ∃ oauth1Port oauth2Port cert,
      standIn given.oauth1Port (env "OAM_OAUTH1_PORT") (readPort .oauth1Port) = .ok oauth1Port ∧
      standIn given.oauth2Port (env "OAM_OAUTH2_PORT") (readPort .oauth2Port) = .ok oauth2Port ∧
      standIn given.cert (env "OAM_CERT_PATH") (readPath .cert) = .ok cert ∧
      ∀ logLevel, overriding { given with oauth1Port, oauth2Port, cert, logLevel } e = given.overriding e := by
  obtain ⟨port1, hport1, hget1⟩ := standIn_port .oauth1Port given.oauth1Port he.oauth1Port
  obtain ⟨port2, hport2, hget2⟩ := standIn_port .oauth2Port given.oauth2Port he.oauth2Port
  obtain ⟨path, hpath, hor⟩ := standIn_cert given.cert he.certificate hne
  refine ⟨port1, port2, path, hport1, hport2, hpath, fun _ => ?_⟩
  rw [overriding, overriding, hget1, hget2, hor]

/-! ## The settings of a run -/

/-- The program starts its servers with these settings. -/
def Plan.StartsWith (args : List String) (env : Environment) (s : Settings) : Prop :=
  ∃ p, make args env = .ok p ∧ p.settings = .ok s

theorem Plan.startsWith_iff {args : List String} {env : Environment} {s : Settings} :
    StartsWith args env s ↔ ∃ opts, Options.parse args env = .ok opts ∧ opts.settings env = .ok s := by
  unfold StartsWith make
  constructor
  · rintro ⟨p, hp, hs⟩
    obtain ⟨opts, hopts, h⟩ := eq_ok_of_bind hp
    cases h
    exact ⟨opts, hopts, mapError_eq_ok_iff.mp hs⟩
  · rintro ⟨opts, hopts, hs⟩
    exact ⟨_, bind_eq_ok_iff.mpr ⟨opts, hopts, rfl⟩, mapError_eq_ok_iff.mpr hs⟩

/-- Standing in for an option adds nothing to what the variable says in the settings, and refuses an empty text for
the certificate. -/
theorem Plan.startsWith_iff_given {args : List String} {env : Environment} {s : Settings} :
    StartsWith args env s ↔
      ∃ given e, Options.parse args (fun _ => none) = .ok given ∧ Settings.ofEnvironment env = .ok e ∧
        (given.cert = none → env "OAM_CERT_PATH" ≠ some "") ∧ s = given.overriding e := by
  rw [startsWith_iff]
  constructor
  · rintro ⟨opts, hopts, hs⟩
    obtain ⟨d, hd, _, h1, _, h2, _, h3, rfl⟩ := Options.parse_eq_ok_iff.mp hopts
    obtain ⟨e, he, rfl⟩ := Options.settings_eq_ok_iff.mp hs
    have hne := Options.ne_empty_of_standIn_cert h3
    obtain ⟨_, _, _, h1', h2', h3', hover⟩ := Options.overriding_standIn (Settings.reads_of_ofEnvironment he) hne
    cases h1.symm.trans h1'
    cases h2.symm.trans h2'
    cases h3.symm.trans h3'
    exact ⟨d.options, e, Options.parse_alone_eq_ok_iff.mpr ⟨d, hd, rfl⟩, he, hne, hover _⟩
  · rintro ⟨given, e, hgiven, he, hne, rfl⟩
    obtain ⟨d, hd, rfl⟩ := Options.parse_alone_eq_ok_iff.mp hgiven
    obtain ⟨_, _, _, h1, h2, h3, hover⟩ := Options.overriding_standIn (Settings.reads_of_ofEnvironment he) hne
    exact ⟨_, Options.parse_eq_ok_iff.mpr ⟨d, hd, _, h1, _, h2, _, h3, rfl⟩,
      Options.settings_eq_ok_iff.mpr ⟨e, he, (hover _).symm⟩⟩

/-! ## Variables that do not show -/

theorem Opt.standIn?_inj {o o' : Opt} {name : String} (h : o.standIn? = some name) (h' : o'.standIn? = some name) :
    o = o' := by
  cases o <;> cases h <;> cases o' <;> first | rfl | exact absurd h' (by decide)

namespace Options

variable {given : Options}

/-- The variable of a setting stands in for an option that was given. -/
def Hides (given : Options) (name : String) : Prop := ∃ o, given.has o = true ∧ o.standIn? = some name

theorem hides_iff {o : Opt} {name : String} (h : o.standIn? = some name) : given.Hides name ↔ given.has o = true := by
  refine ⟨fun ⟨o', hhas, ho'⟩ => ?_, fun hhas => ⟨o, hhas, h⟩⟩
  rwa [Opt.standIn?_inj h ho']

theorem not_hides {name : String} (h : name ∉ Opt.ofSettings.filterMap Opt.standIn?) : ¬given.Hides name := by
  rintro ⟨o, hhas, ho⟩
  have hmem : o ∈ Opt.ofSettings := by cases o <;> first | decide | cases hhas
  exact h (List.mem_filterMap.mpr ⟨o, hmem, ho⟩)

/-- What stands behind the options that were given does not show in the settings. -/
theorem eq_of_hidden {env env' : Environment} {e e' : Settings}
    (hsame : ∀ name, ¬given.Hides name → env' name = env name) (he : Settings.Reads env e)
    (he' : Settings.Reads env' e') :
    given.overriding e' = given.overriding e := by
  have hother : ∀ {name}, name ∉ Opt.ofSettings.filterMap Opt.standIn? → env' name = env name := fun h =>
    hsame _ (not_hides h)
  have hopen : ∀ o {name}, o.standIn? = some name → given.has o = false → env' name = env name := fun _ _ ho hhas =>
    hsame _ fun hhides => Bool.false_ne_true (hhas.symm.trans ((hides_iff ho).mp hhides))
  have hbind := Settings.eq_of_readVariable (hother (by decide)) he.bindAddress he'.bindAddress
  have hhost := Settings.eq_of_readVariable (hother (by decide)) he.publicHost he'.publicHost
  have htimeout := Settings.eq_of_readVariable (hother (by decide)) he.signalTimeout he'.signalTimeout
  have hport1 : given.oauth1Port.getD e'.oauth1Port = given.oauth1Port.getD e.oauth1Port := by
    cases hg : given.oauth1Port with
    | some port => rfl
    | none =>
      have hsame := hopen .oauth1Port rfl (congrArg Option.isSome hg)
      exact Settings.eq_of_readVariable hsame he.oauth1Port he'.oauth1Port
  have hport2 : given.oauth2Port.getD e'.oauth2Port = given.oauth2Port.getD e.oauth2Port := by
    cases hg : given.oauth2Port with
    | some port => rfl
    | none =>
      have hsame := hopen .oauth2Port rfl (congrArg Option.isSome hg)
      exact Settings.eq_of_readVariable hsame he.oauth2Port he'.oauth2Port
  have hcert : (given.cert <|> e'.certificate) = (given.cert <|> e.certificate) := by
    cases hg : given.cert with
    | some path => rfl
    | none =>
      have hsame := hopen .cert rfl (congrArg Option.isSome hg)
      rw [Settings.eq_of_readVariable hsame he.certificate he'.certificate]
  rw [overriding, overriding, hport1, hport2, hcert, he.others, he'.others, hbind, hhost, htimeout]

end Options

/-- The servers start with the settings of the environment and the options of the command line over them, so they
depend on no variable that stands in for an option that was given. But they start only if every variable can be read,
hidden or not, and if no empty text stands in for the path of the certificate. -/
theorem Plan.options_over_variables (args : List String) (env : Environment) (s : Settings) :
    (StartsWith args env s ↔
      ∃ given e, Options.parse args (fun _ => none) = .ok given ∧ Settings.ofEnvironment env = .ok e ∧
        (given.cert = none → env "OAM_CERT_PATH" ≠ some "") ∧ s = given.overriding e) ∧
      ∀ given env' s', Options.parse args (fun _ => none) = .ok given →
        (∀ name, ¬given.Hides name → env' name = env name) →
        StartsWith args env s → StartsWith args env' s' → s' = s := by
  refine ⟨startsWith_iff_given, ?_⟩
  intro given env' s' hgiven hsame hs hs'
  obtain ⟨_, e, hg, he, -, rfl⟩ := startsWith_iff_given.mp hs
  cases hgiven.symm.trans hg
  obtain ⟨_, e', hg', he', -, rfl⟩ := startsWith_iff_given.mp hs'
  cases hgiven.symm.trans hg'
  exact Options.eq_of_hidden hsame (Settings.reads_of_ofEnvironment he) (Settings.reads_of_ofEnvironment he')

/-- Both ports and the certificate, each from another place; and none of them where the certificate has only an empty
text to stand in for it. -/
theorem Plan.options_over_three_variables :
    let env : Environment := fun name =>
      if name = "OAM_OAUTH1_PORT" then some "1"
      else if name = "OAM_OAUTH2_PORT" then some "2"
      else if name = "OAM_CERT_PATH" then some "" else none
    StartsWith ["--oauth1-port", "81", "--cert=a.pem"] env
        { Settings.standard with oauth1Port := 81, oauth2Port := 2, certificate := some "a.pem" } ∧
      ∀ s, ¬StartsWith ["--oauth1-port", "81", "--no-tls"] env s := by
  intro env
  have he : Settings.ofEnvironment env =
      .ok { Settings.standard with oauth1Port := 1, oauth2Port := 2, certificate := none } := rfl
  refine ⟨(options_over_variables _ env _).1.mpr
    ⟨⟨some 81, none, some "a.pem", false, .both, "info", false⟩, _, rfl, he, nofun, rfl⟩,
    fun s hs => ?_⟩
  obtain ⟨given, e, hgiven, -, hne, -⟩ := (options_over_variables _ env s).1.mp hs
  have hparse : Options.parse ["--oauth1-port", "81", "--no-tls"] (fun _ => none) =
      .ok ⟨some 81, none, none, true, .both, "info", false⟩ := rfl
  cases hgiven.symm.trans hparse
  exact hne rfl rfl

/-- The text of a variable matters even behind an option that was given. -/
example :
    let env : Environment := fun name => if name = "OAM_OAUTH1_PORT" then some "x" else none
    let given : Options := ⟨some 81, none, none, false, .both, "info", false⟩
    Options.parse ["--oauth1-port", "81"] env = .ok given ∧ given.settings env = .error (.number .invalidDigit) :=
  ⟨rfl, rfl⟩

end LoginRehearsal
