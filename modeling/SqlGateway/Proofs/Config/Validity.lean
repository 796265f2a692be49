/-
Which files and ports the settings are loaded from, and what is reported of the others. A file describes settings if it
can be read and its text is a document of theirs (`Describes`); the environment may ask for a port, which replaces that of
the document (`Follows`).

- `port?_eq_some`: what is a port is digits, behind a plus or not, with white space around them.
- `load_settles`: settings are loaded exactly if everything is in order, and then they are those of the document and the
  port asked for; otherwise the first defect is reported, whatever else is wrong (`FirstDefect`). The pool of every
  configuration that is loaded has the bounds that the configuration asks for.
-/
import SqlGateway.Config.Load
import SqlGateway.Proofs.Text.Blank
import SqlGateway.Proofs.Text.Decimal
import SqlGateway.Proofs.Text.Utf8
import SqlGateway.Proofs.Traversal

namespace SqlGateway

open Text (Blank SpellsNatural)

/-! ## Ports -/

/-- the text is the number of a port, behind a plus or not, with white space around it -/
def NamesPort (value : String) (port : UInt16) : Prop :=
  ∃ before number after, value.toList = before ++ number ++ after ∧ Blank before ∧ Blank after ∧
    SpellsNatural number port.toNat

theorem spelled_ne_nil {cs : List Char} {n : Nat} (h : SpellsNatural cs n) : cs ≠ [] := by
  cases h with
  | bare hne => exact hne
  | plus => exact List.cons_ne_nil _ _

theorem spelled_solid {cs : List Char} {n : Nat} (h : SpellsNatural cs n) : ∀ c ∈ cs, Text.isBlank c = false := by
  cases h with
  | bare _ hdigits => exact fun c hc => Text.isBlank_of_isDigit (hdigits c hc)
  | plus _ hdigits =>
    exact List.forall_mem_cons.2 ⟨by decide, fun c hc => Text.isBlank_of_isDigit (hdigits c hc)⟩

theorem port?_eq_some {value : String} {port : UInt16} : port? value = some port ↔ NamesPort value port := by
  constructor
  · intro h
    unfold port? at h
    split at h
    · rename_i n hn
      split at h
      · rename_i hbound
        obtain ⟨before, after, hvalue, hbefore, hafter⟩ := Text.exists_trim value.toList
        refine ⟨before, _, after, hvalue, hbefore, hafter, ?_⟩
        rw [← Option.some.inj h, UInt16.toNat_ofNat_of_lt' hbound]
        exact Text.natural?_eq_some.1 hn
      · cases h
    · cases h
  · rintro ⟨before, number, after, hvalue, hbefore, hafter, hnumber⟩
    have htrim := Text.trim_between hbefore hafter (spelled_ne_nil hnumber) (spelled_solid hnumber)
    unfold port?
    rw [hvalue, htrim, Text.natural?_eq_some.2 hnumber]
    simp [port.toNat_lt_size]

/-- the settings with the port that the environment asks for, if it asks for one -/
inductive Follows (c : Config) : Option String → Config → Prop
  | unasked : Follows c none c
  | asked {value : String} {port : UInt16} :
    NamesPort value port → Follows c (some value) { c with server := { c.server with port := port } }

/-- the environment asks for something that is no port -/
def NoPort (value : String) : Prop := ∀ port, ¬ NamesPort value port

theorem withPort_eq_ok {c c' : Config} {port : Option String} : c.withPort port = .ok c' ↔ Follows c port c' := by
  constructor
  · intro h
    unfold Config.withPort at h
    split at h
    · cases h
      exact .unasked
    · split at h
      · rename_i hport
        cases h
        exact .asked (port?_eq_some.1 hport)
      · cases h
  · intro h
    cases h with
    | unasked => rfl
    | asked hport => rw [Config.withPort, port?_eq_some.2 hport]

theorem withPort_eq_error {c : Config} {port : Option String} {e : ConfigError} :
    c.withPort port = .error e ↔ ∃ value, port = some value ∧ NoPort value ∧ e = .invalidPort value := by
  cases port with
  | none => simp [Config.withPort]
  | some value =>
    have hno : port? value = none ↔ NoPort value := by
      simp [Option.eq_none_iff_forall_ne_some, port?_eq_some, NoPort]
    rw [Config.withPort]
    cases hport : port? value with
    | none => simp [hno.1 hport, @eq_comm _ e]
    | some port => simp [← hno, hport]

theorem Follows.mysql_eq {c c' : Config} {port : Option String} (h : Follows c port c') : c'.mysql = c.mysql := by
  cases h <;> rfl

/-! ## Validity -/

theorem validate_eq_ok {c c' : Config} :
    c.validate = .ok c' ↔ (c.mysql.maxConnections ≠ 0 ∧ c.mysql.host ≠ "") ∧ c = c' := by
  unfold Config.validate
  by_cases hpool : c.mysql.maxConnections = 0
  · simp [hpool]
  · by_cases hhost : c.mysql.host = ""
    · simp [hpool, hhost]
    · simp [hpool, hhost]

theorem validate_eq_error {c : Config} {e : ConfigError} :
    c.validate = .error e ↔ (c.mysql.maxConnections = 0 ∧ e = .noConnections) ∨
      (c.mysql.maxConnections ≠ 0 ∧ c.mysql.host = "" ∧ e = .noHost) := by
  unfold Config.validate
  by_cases hpool : c.mysql.maxConnections = 0
  · simp [hpool, @eq_comm _ e]
  · by_cases hhost : c.mysql.host = ""
    · simp [hpool, hhost, @eq_comm _ e]
    · simp [hpool, hhost]

/-! ## Files -/

/-- the file can be read, it is text, and its text is a document of these settings -/
def Describes (content : Except FileError (List UInt8)) (c : Config) : Prop :=
  ∃ text, content = .ok (Utf8.encode text) ∧ Config.parse text = .ok c

/-- what is reported of a file and the port asked for: each defect only if everything before it is in order -/
inductive FirstDefect (content : Except FileError (List UInt8)) (port : Option String) : ConfigError → Prop
  | unreadable {e : FileError} : content = .error e → FirstDefect content port (.unreadable e)
  | notText {octets : List UInt8} :
    content = .ok octets → (∀ text, octets ≠ Utf8.encode text) → FirstDefect content port .notText
  | document {text : String} {e : Json.ReadError} :
    content = .ok (Utf8.encode text) → Json.readShape Config.shape (Utf8.encode text) = .error e →
      FirstDefect content port (.invalidDocument e)
  | port {c : Config} {value : String} :
    Describes content c → port = some value → NoPort value → FirstDefect content port (.invalidPort value)
  | connections {c : Config} :
    Describes content c → (∀ value, port = some value → ¬ NoPort value) → c.mysql.maxConnections = 0 →
      FirstDefect content port .noConnections
  | host {c : Config} :
    Describes content c → (∀ value, port = some value → ¬ NoPort value) → c.mysql.maxConnections ≠ 0 →
      c.mysql.host = "" → FirstDefect content port .noHost

theorem Describes.load_eq {content : Except FileError (List UInt8)} {c : Config} (h : Describes content c)
    (port : Option String) : Config.load content port = c.withPort port >>= Config.validate := by
  obtain ⟨text, rfl, hparse⟩ := h
  unfold Config.load
  simp only [Except.mapError, Utf8.decode?_encode, bind, Except.bind, hparse]

theorem parse_eq_error {text : String} {e : Json.ReadError} (h : Json.readShape Config.shape (Utf8.encode text) = .error e) :
    Config.parse text = .error (.invalidDocument e) := by
  rw [Config.parse, h]

/-- a port that is asked for and is one, or none -/
theorem exists_follows {port : Option String} (h : ∀ value, port = some value → ¬ NoPort value) (c : Config) :
    ∃ c', c.withPort port = .ok c' ∧ Follows c port c' := by
  cases hport : c.withPort port with
  | ok c' => exact ⟨c', rfl, withPort_eq_ok.1 hport⟩
  | error e =>
    obtain ⟨value, hvalue, hno, -⟩ := withPort_eq_error.1 hport
    exact absurd hno (h value hvalue)

theorem FirstDefect.load_eq {content : Except FileError (List UInt8)} {port : Option String} {e : ConfigError}
    (h : FirstDefect content port e) : Config.load content port = .error e := by
  cases h with
  | unreadable hcontent =>
    rw [hcontent]
    rfl
  | @notText octets hcontent hno =>
    have hdecode : Utf8.decode? octets = none := by
      rw [Option.eq_none_iff_forall_ne_some]
      exact fun text htext => hno text (Utf8.decode?_eq_some.1 htext)
    unfold Config.load
    simp only [hcontent, Except.mapError, bind, Except.bind, hdecode]
  | document hcontent hread =>
    unfold Config.load
    simp only [hcontent, Except.mapError, Utf8.decode?_encode, bind, Except.bind, parse_eq_error hread]
  | port hdescribes hport hno =>
    rw [hdescribes.load_eq, withPort_eq_error.2 ⟨_, hport, hno, rfl⟩]
    rfl
  | connections hdescribes hport hpool =>
    obtain ⟨c', hwith, hfollows⟩ := exists_follows hport _
    rw [hdescribes.load_eq, hwith]
    exact validate_eq_error.2 (.inl ⟨hfollows.mysql_eq ▸ hpool, rfl⟩)
  | host hdescribes hport hpool hhost =>
    obtain ⟨c', hwith, hfollows⟩ := exists_follows hport _
    rw [hdescribes.load_eq, hwith]
    exact validate_eq_error.2 (.inr ⟨hfollows.mysql_eq ▸ hpool, hfollows.mysql_eq ▸ hhost, rfl⟩)

/-- a file describes settings, or what is wrong with it is reported, whatever port is asked for -/
theorem describes_or_defect (content : Except FileError (List UInt8)) (port : Option String) :
    (∃ c, Describes content c) ∨ ∃ e, FirstDefect content port e := by
  cases content with
  | error e => exact .inr ⟨_, .unreadable rfl⟩
  | ok octets =>
    by_cases htext : ∃ text, octets = Utf8.encode text
    · obtain ⟨text, rfl⟩ := htext
      cases hread : Json.readShape Config.shape (Utf8.encode text) with
      | error e => exact .inr ⟨_, .document rfl hread⟩
      | ok v => exact .inl ⟨_, text, rfl, by rw [Config.parse, hread]⟩
    · exact .inr ⟨_, .notText rfl (not_exists.1 htext)⟩

theorem Describes.exists_defect {content : Except FileError (List UInt8)} {c : Config} (h : Describes content c)
    {port : Option String} {e : ConfigError} (hload : Config.load content port = .error e) :
    FirstDefect content port e := by
  rw [h.load_eq] at hload
  cases hport : c.withPort port with
  | error e' =>
    rw [hport] at hload
    cases hload
    obtain ⟨value, hvalue, hno, rfl⟩ := withPort_eq_error.1 hport
    exact .port h hvalue hno
  | ok c' =>
    rw [hport] at hload
    have hvalidate : c'.validate = .error e := hload
    have hfollows := withPort_eq_ok.1 hport
    have hasked : ∀ value, port = some value → ¬ NoPort value := by
      intro value hvalue hno
      have hfails : c.withPort port = .error (.invalidPort value) := withPort_eq_error.2 ⟨value, hvalue, hno, rfl⟩
      exact absurd (hport.symm.trans hfails) nofun
    rw [validate_eq_error, hfollows.mysql_eq] at hvalidate
    rcases hvalidate with ⟨hpool, rfl⟩ | ⟨hpool, hhost, rfl⟩
    · exact .connections h hasked hpool
    · exact .host h hasked hpool hhost

theorem load_eq_error {content : Except FileError (List UInt8)} {port : Option String} {e : ConfigError} :
    Config.load content port = .error e ↔ FirstDefect content port e := by
  refine ⟨fun hload => ?_, FirstDefect.load_eq⟩
  rcases describes_or_defect content port with ⟨c, hc⟩ | ⟨e', he'⟩
  · exact hc.exists_defect hload
  · cases hload.symm.trans he'.load_eq
    exact he'

theorem load_eq_ok {content : Except FileError (List UInt8)} {port : Option String} {c' : Config} :
    Config.load content port = .ok c' ↔
      ∃ c, Describes content c ∧ Follows c port c' ∧ c.mysql.maxConnections ≠ 0 ∧ c.mysql.host ≠ "" := by
  have hloaded : ∀ {c}, Describes content c → (Config.load content port = .ok c' ↔
      Follows c port c' ∧ c.mysql.maxConnections ≠ 0 ∧ c.mysql.host ≠ "") := by
    intro c hc
    rw [hc.load_eq, bind_eq_ok]
    simp only [withPort_eq_ok, validate_eq_ok]
    constructor
    · rintro ⟨_, hfollows, hvalid, rfl⟩
      rw [hfollows.mysql_eq] at hvalid
      exact ⟨hfollows, hvalid⟩
    · rintro ⟨hfollows, hvalid⟩
      rw [← hfollows.mysql_eq] at hvalid
      exact ⟨c', hfollows, hvalid, rfl⟩
  constructor
  · intro hload
    rcases describes_or_defect content port with ⟨c, hc⟩ | ⟨e, he⟩
    · exact ⟨c, hc, (hloaded hc).1 hload⟩
    · exact absurd (he.load_eq.symm.trans hload) nofun
  · rintro ⟨c, hc, hrest⟩
    exact (hloaded hc).2 hrest

/-! ## The pool -/

/-- a pool that may hold a connection has the bounds that are asked for -/
theorem poolBounds?_of_ne_zero {n : UInt32} (h : n ≠ 0) :
    ConnectionOptions.poolBounds? 0 n.toNat = some (0, n.toNat) := by
  have hpos : 0 < n.toNat := Nat.pos_of_ne_zero fun hzero => h (UInt32.toNat_inj.1 hzero)
  exact if_pos ⟨Nat.zero_le _, hpos⟩

/-! ## Main result -/

/-- **Settings are loaded if everything is in order, and the first defect is reported otherwise.** For every file and
every port asked for: loading succeeds exactly if the file describes settings, the port is one, the pool may hold a
connection and the database has a host; then the settings are those of the file, with that port. It fails exactly with
the first defect. Of settings that are loaded, the bounds of the pool are those that were asked for, never the default. -/
theorem load_settles :
    (∀ content port c', Config.load content port = .ok c' ↔
      ∃ c, Describes content c ∧ Follows c port c' ∧ c.mysql.maxConnections ≠ 0 ∧ c.mysql.host ≠ "") ∧
    (∀ content port e, Config.load content port = .error e ↔ FirstDefect content port e) ∧
    ∀ content port c, Config.load content port = .ok c →
      ConnectionOptions.poolBounds? 0 c.mysql.maxConnections.toNat = some (0, c.mysql.maxConnections.toNat) ∧
      c.mysql.options.poolBounds = (0, c.mysql.maxConnections.toNat) := by
  refine ⟨fun _ _ _ => load_eq_ok, fun _ _ _ => load_eq_error, fun content port c hload => ?_⟩
  obtain ⟨c₀, -, hfollows, hpool, -⟩ := load_eq_ok.1 hload
  rw [← hfollows.mysql_eq] at hpool
  have hbounds := poolBounds?_of_ne_zero hpool
  refine ⟨hbounds, ?_⟩
  rw [DatabaseConfig.options, hbounds, Option.getD_some]

/-- a document that leaves no connection and no host -/
def emptyPool : List UInt8 := Utf8.encode "\x7b\"mysql\":\x7b\"max_connections\":0,\"host\":\"\"\x7d\x7d"

/-- a document of one setting -/
def smallPool : List UInt8 := Utf8.encode "\x7b\"mysql\":\x7b\"max_connections\":4\x7d\x7d"

/-- of three defects the port is reported; with a plus and zeros in white space, a port is one -/
theorem load_settles_smallPool :
    FirstDefect (.ok emptyPool) (some "65536") (.invalidPort "65536") ∧
    Config.load (.ok smallPool) (some " +08080\u3000") =
      .ok { server := { port := 8080 }, mysql := { maxConnections := 4 } } ∧
    ConnectionOptions.poolBounds? 0 4 = some (0, 4) := by
  have hload : Config.load (.ok smallPool) (some " +08080\u3000") =
      .ok { server := { port := 8080 }, mysql := { maxConnections := 4 } } := by rfl
  refine ⟨(load_settles.2.1 _ _ _).1 (by rfl), hload, ?_⟩
  exact (load_settles.2.2 _ _ _ hload).1

end SqlGateway
