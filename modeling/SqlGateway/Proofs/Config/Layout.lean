/-
Documents of the settings. A document chooses some of the fields, in its own order, and may hold more (`Layout`); what
it leaves out has its default.

- `exists_takes`: on either level, what is handed on for the fields does not depend on the order of the members, nor on
  members that are no fields.
- `load_any_layout`: a document is loaded as the fields that it chooses and the defaults of the others, in whatever
  layout it is written; and settings that are written down and loaded again are the same.
-/
import SqlGateway.Config.Load
import SqlGateway.Proofs.Config.Validity
import SqlGateway.Proofs.Json.Reading

namespace SqlGateway

open Json (Shape IsText keys putAll)
open Json.Reader (Takes TakesMembers)

/-! ## Documents -/

/-- fields of a record: those that are chosen have a value -/
abbrev Fields := List (String × Option Json)

/-- the fields that are chosen, with their values -/
def Fields.chosen (fields : Fields) : List (String × Json) := fields.filterMap fun f => f.2.map fun v => (f.1, v)

/-- the members are those chosen, in any order, and among them any that are no fields -/
def Arranges (fields : Fields) (members : List (String × Json)) : Prop :=
  (members.filter fun m => m.1 ∈ fields.map Prod.fst).Perm fields.chosen

/-- a section: it may be missing if nothing in it is chosen -/
inductive Section (fields : Fields) : Option Json → Prop
  | missing : fields.chosen = [] → Section fields none
  | present {members : List (String × Json)} : Arranges fields members → Section fields (some (.object members))

/-- the fields of the server that a document chooses -/
structure ServerChoice where
  host : Option String := none
  port : Option UInt16 := none
  logLevel : Option String := none

/-- the fields of the database that a document chooses -/
structure DatabaseChoice where
  host : Option String := none
  port : Option UInt16 := none
  user : Option String := none
  password : Option String := none
  database : Option (Option String) := none
  maxConnections : Option UInt32 := none
  retryIntervalSecs : Option UInt64 := none

def ServerChoice.fields (c : ServerChoice) : Fields :=
  [("host", c.host.map .string), ("port", c.port.map fun n => .natural n.toNat), ("log_level", c.logLevel.map .string)]

def DatabaseChoice.fields (c : DatabaseChoice) : Fields :=
  [("host", c.host.map .string), ("port", c.port.map fun n => .natural n.toNat), ("user", c.user.map .string),
    ("password", c.password.map .string), ("database", c.database.map fun name => name.elim .null .string),
    ("max_connections", c.maxConnections.map fun n => .natural n.toNat),
    ("retry_interval_secs", c.retryIntervalSecs.map fun n => .natural n.toNat)]

/-- the fields that are chosen, and the defaults of the others -/
def ServerChoice.settings (c : ServerChoice) : ServerConfig :=
  let base : ServerConfig := {}
  { host := c.host.getD base.host
    port := c.port.getD base.port
    logLevel := c.logLevel.getD base.logLevel }

def DatabaseChoice.settings (c : DatabaseChoice) : DatabaseConfig :=
  let base : DatabaseConfig := {}
  { host := c.host.getD base.host
    port := c.port.getD base.port
    user := c.user.getD base.user
    password := c.password.getD base.password
    database := c.database.getD base.database
    maxConnections := c.maxConnections.getD base.maxConnections
    retryIntervalSecs := c.retryIntervalSecs.getD base.retryIntervalSecs }

/-- the values chosen pass the checks: the pool may hold a connection, the database has a host -/
structure DatabaseChoice.Valid (c : DatabaseChoice) : Prop where
  connections : c.maxConnections ≠ some 0
  host : c.host ≠ some ""

/-- a document of these choices, in any order and with any members that are no fields, on both levels -/
inductive Layout (server : ServerChoice) (mysql : DatabaseChoice) : Json → Prop
  | document {serverSection mysqlSection : Option Json} {members : List (String × Json)} :
    Section server.fields serverSection → Section mysql.fields mysqlSection →
      Arranges [("server", serverSection), ("mysql", mysqlSection)] members → Layout server mysql (.object members)

/-! ## What a record takes -/

theorem mem_chosen {fields : Fields} {key : String} {v : Json} : (key, v) ∈ fields.chosen ↔ (key, some v) ∈ fields := by
  simp [Fields.chosen, List.mem_filterMap]

theorem keys_chosen_sublist (fields : Fields) : (keys fields.chosen).Sublist (fields.map Prod.fst) := by
  induction fields with
  | nil => exact .slnil
  | cons f fields ih =>
    obtain ⟨key, v⟩ := f
    cases v with
    | none => exact ih.cons key
    | some v => exact ih.cons_cons key

theorem lookup_isSome_iff {shapes : List (String × Shape)} {key : String} :
    (shapes.lookup key).isSome ↔ key ∈ shapes.map Prod.fst := by
  simp [List.lookup_isSome_iff]

/-- members that come once if they are fields, each handed on by itself -/
theorem takesMembers_map {shapes : List (String × Shape)} {members : List (String × Json)} {handed : String × Json → Json}
    (htakes : ∀ m ∈ members, Takes ((shapes.lookup m.1).getD .ignored) m.2 (handed m))
    (honce : (keys (members.filter fun m => m.1 ∈ shapes.map Prod.fst)).Nodup) :
    TakesMembers shapes members (members.map fun m => (m.1, handed m)) := by
  induction members with
  | nil => exact .nil shapes
  | cons m members ih =>
    obtain ⟨hm, hrest⟩ := List.forall_mem_cons.1 htakes
    by_cases hfield : m.1 ∈ shapes.map Prod.fst
    · rw [List.filter_cons_of_pos (by simpa using hfield), keys, List.map_cons, List.nodup_cons] at honce
      refine .cons hm (fun _ hagain => honce.1 ?_) (ih hrest honce.2)
      obtain ⟨m', hm', hkey⟩ := List.mem_map.1 hagain
      exact List.mem_map.2 ⟨m', List.mem_filter.2 ⟨hm', by simpa [hkey] using hfield⟩, hkey⟩
    · rw [List.filter_cons_of_neg (by simpa using hfield)] at honce
      exact .cons hm (fun hknown => absurd (lookup_isSome_iff.1 hknown) hfield) (ih hrest honce)

/-- what the record holds of a member: of a field what is handed on, of anything else nothing -/
def Fields.held (fields : Fields) (handed : String → Json → Json) (m : String × Json) : Json :=
  if m.1 ∈ fields.map Prod.fst then handed m.1 m.2 else .null

/-- **Members that are no fields are passed over, the others are handed on**, in whatever order they come. -/
theorem exists_takes (shapes : List (String × Shape)) {fields : Fields} (hnames : shapes.map Prod.fst = fields.map Prod.fst)
    (hnodup : (shapes.map Prod.fst).Nodup) {members : List (String × Json)} (h : Arranges fields members)
    (handed : String → Json → Json)
    (htakes : ∀ key v, (key, some v) ∈ fields → Takes ((shapes.lookup key).getD .ignored) v (handed key v)) :
    ∃ pairs, TakesMembers shapes members pairs ∧
      ∀ f ∈ fields, (putAll pairs []).lookup f.1 = f.2.map (handed f.1) := by
  rw [hnames] at hnodup
  have hmembers : ∀ {key v}, key ∈ fields.map Prod.fst → ((key, v) ∈ members ↔ (key, some v) ∈ fields) := by
    intro key v hkey
    rw [← mem_chosen, ← h.mem_iff, List.mem_filter]
    simp [hkey]
  have hunique : ∀ {f f'}, f ∈ fields → f' ∈ fields → f.1 = f'.1 → f = f' :=
    fun hf hf' hkey => List.inj_on_of_nodup_map hnodup hf hf' hkey
  have hkeys : keys (members.map fun m => (m.1, fields.held handed m)) = keys members := by simp [keys, Function.comp_def]
  refine ⟨members.map fun m => (m.1, fields.held handed m), ?_, ?_⟩
  · apply takesMembers_map
    · intro m hm
      by_cases hfield : m.1 ∈ fields.map Prod.fst
      · have hheld : fields.held handed m = handed m.1 m.2 := if_pos hfield
        rw [hheld]
        exact htakes _ _ ((hmembers hfield).1 hm)
      · have hunknown : shapes.lookup m.1 = none := by
          rw [← Option.not_isSome_iff_eq_none, lookup_isSome_iff, hnames]
          exact hfield
        have hheld : fields.held handed m = .null := if_neg hfield
        rw [hheld, hunknown]
        exact .ignored m.2
    · rw [hnames]
      exact (h.map Prod.fst).nodup_iff.2 (hnodup.sublist (keys_chosen_sublist fields))
  · rintro ⟨key, chosen⟩ hf
    have hfield : key ∈ fields.map Prod.fst := List.mem_map_of_mem hf
    cases chosen with
    | none =>
      have habsent : key ∉ keys members := by
        intro hmem
        obtain ⟨⟨_, v⟩, hm, rfl⟩ := List.mem_map.1 hmem
        cases hunique hf ((hmembers hfield).1 hm) rfl
      rw [Json.lookup_putAll_of_not_mem]
      · rfl
      · rwa [hkeys]
    | some v =>
      apply Json.lookup_putAll_of_agree
      · rw [hkeys]
        exact List.mem_map.2 ⟨_, (hmembers hfield).2 hf, rfl⟩
      · intro p hp hkey
        obtain ⟨⟨k, v'⟩, hm, rfl⟩ := List.mem_map.1 hp
        obtain rfl : k = key := hkey
        cases hunique hf ((hmembers hfield).1 hm) rfl
        exact if_pos hfield

/-! ## Sections -/

/-- a section is read as the settings that its fields tell, whether it is there or not -/
theorem Section.exists_read {fields : Fields} {written : Option Json} (h : Section fields written) (name : String)
    (shapes : List (String × Shape)) (hnames : shapes.map Prod.fst = fields.map Prod.fst)
    (hnodup : (shapes.map Prod.fst).Nodup)
    (htakes : ∀ key v, (key, some v) ∈ fields → Takes ((shapes.lookup key).getD .ignored) v v) {σ : Type}
    {ofJson : Json → σ} {settings : σ}
    (hread : ∀ members, (∀ f ∈ fields, members.lookup f.1 = f.2) → ofJson (.object members) = settings) :
    ∃ read : Json → Json, (∀ v, written = some v → Takes (.record name shapes) v (read v)) ∧
      (written.map read).elim (ofJson (.object [])) ofJson = settings := by
  cases h with
  | missing hnone =>
    refine ⟨id, nofun, hread [] fun f hf => ?_⟩
    obtain ⟨key, v⟩ := f
    cases v with
    | none => rfl
    | some v => exact absurd (mem_chosen.2 hf) (hnone ▸ List.not_mem_nil)
  | present harranges =>
    obtain ⟨pairs, hpairs, hheld⟩ := exists_takes shapes hnames hnodup harranges (fun _ v => v) htakes
    refine ⟨fun _ => .object (putAll pairs []), ?_, hread _ fun f hf => ?_⟩
    · rintro v ⟨⟩
      exact .record name hpairs
    · rw [hheld f hf, Option.map_id']

theorem textField_eq {members : List (String × Json)} {key : String} {s : Option String}
    (h : members.lookup key = s.map .string) (default : String) :
    textField (.object members) key default = s.getD default := by
  rw [textField, Json.get?, h]
  cases s <;> rfl

theorem naturalField_eq {α : Type} {toNat : α → Nat} {members : List (String × Json)} {key : String} {n : Option α}
    (h : members.lookup key = n.map fun a => .natural (toNat a)) (default : α) :
    naturalField (.object members) key (toNat default) = toNat (n.getD default) := by
  rw [naturalField, Json.get?, h]
  cases n <;> rfl

/-- the fields of a record -/
def fieldShapes : Shape → List (String × Shape)
  | .record _ fields => fields
  | _ => []

theorem ServerChoice.takes (c : ServerChoice) (key : String) (v : Json) (h : (key, some v) ∈ c.fields) :
    Takes (((fieldShapes ServerConfig.shape).lookup key).getD .ignored) v v := by
  simp only [ServerChoice.fields, List.mem_cons, List.not_mem_nil, or_false, Prod.mk.injEq, @eq_comm _ (some v),
    Option.map_eq_some_iff] at h
  rcases h with ⟨rfl, s, -, rfl⟩ | ⟨rfl, n, -, rfl⟩ | ⟨rfl, s, -, rfl⟩
  · exact .text s
  · exact .natural "u16" n.toNat_lt_size (Nat.lt_trans n.toNat_lt_size (by decide))
  · exact .text s

theorem DatabaseChoice.takes (c : DatabaseChoice) (key : String) (v : Json) (h : (key, some v) ∈ c.fields) :
    Takes (((fieldShapes DatabaseConfig.shape).lookup key).getD .ignored) v v := by
  simp only [DatabaseChoice.fields, List.mem_cons, List.not_mem_nil, or_false, Prod.mk.injEq, @eq_comm _ (some v),
    Option.map_eq_some_iff] at h
  rcases h with ⟨rfl, s, -, rfl⟩ | ⟨rfl, n, -, rfl⟩ | ⟨rfl, s, -, rfl⟩ | ⟨rfl, s, -, rfl⟩ | ⟨rfl, name, -, rfl⟩ |
    ⟨rfl, n, -, rfl⟩ | ⟨rfl, n, -, rfl⟩
  · exact .text s
  · exact .natural "u16" n.toNat_lt_size (Nat.lt_trans n.toNat_lt_size (by decide))
  · exact .text s
  · exact .text s
  · cases name with
    | none => exact .noText
    | some s => exact .optionalText s
  · exact .natural "u32" n.toNat_lt_size (Nat.lt_trans n.toNat_lt_size (by decide))
  · exact .natural "u64" n.toNat_lt_size n.toNat_lt_size

theorem ServerChoice.ofJson_eq (c : ServerChoice) (members : List (String × Json))
    (h : ∀ f ∈ c.fields, members.lookup f.1 = f.2) : ServerConfig.ofJson (.object members) = c.settings := by
  simp only [ServerChoice.fields, List.forall_mem_cons] at h
  obtain ⟨hhost, hport, hlogLevel, -⟩ := h
  simp only [ServerConfig.ofJson, textField_eq hhost, naturalField_eq hport, UInt16.ofNat_toNat, textField_eq hlogLevel]
  rfl

theorem DatabaseChoice.ofJson_eq (c : DatabaseChoice) (members : List (String × Json))
    (h : ∀ f ∈ c.fields, members.lookup f.1 = f.2) : DatabaseConfig.ofJson (.object members) = c.settings := by
  simp only [DatabaseChoice.fields, List.forall_mem_cons] at h
  obtain ⟨hhost, hport, huser, hpassword, hdatabase, hmaxConnections, hretry, -⟩ := h
  have hname : ((Json.object members).get? "database").bind Json.asString? = c.database.getD none := by
    rw [Json.get?, hdatabase]
    rcases c.database with _ | _ | name <;> rfl
  simp only [DatabaseConfig.ofJson, textField_eq hhost, naturalField_eq hport, UInt16.ofNat_toNat, textField_eq huser,
    textField_eq hpassword, hname, naturalField_eq hmaxConnections, UInt32.ofNat_toNat, naturalField_eq hretry,
    UInt64.ofNat_toNat]
  rfl

/-! ## Loading -/

/-- a document is read as the choices that it is a layout of -/
theorem Layout.parse_eq {server : ServerChoice} {mysql : DatabaseChoice} {document : Json} (h : Layout server mysql document)
    {text : String} (htext : IsText document (Utf8.encode text)) :
    Config.parse text = .ok ⟨server.settings, mysql.settings⟩ := by
  cases h with
  | @document serverSection mysqlSection members hserver hmysql harranges =>
    obtain ⟨readServer, htakesServer, hserver⟩ := hserver.exists_read "HttpServerConfig" (fieldShapes ServerConfig.shape)
      rfl (by decide) server.takes server.ofJson_eq
    obtain ⟨readMysql, htakesMysql, hmysql⟩ := hmysql.exists_read "MySqlConfig" (fieldShapes DatabaseConfig.shape)
      rfl (by decide) mysql.takes mysql.ofJson_eq
    obtain ⟨pairs, hpairs, hheld⟩ := exists_takes (fieldShapes Config.shape) rfl (by decide) harranges
      (fun key v => if key = "server" then readServer v else readMysql v) <| by
        intro key v hmem
        simp only [List.mem_cons, List.not_mem_nil, or_false, Prod.mk.injEq, @eq_comm _ (some v)] at hmem
        rcases hmem with ⟨rfl, hv⟩ | ⟨rfl, hv⟩
        · exact htakesServer v hv
        · exact htakesMysql v hv
    simp only [List.forall_mem_cons] at hheld
    obtain ⟨hheldServer, hheldMysql, -⟩ := hheld
    have hread : Json.readShape Config.shape (Utf8.encode text) = .ok (.object (putAll pairs [])) :=
      Json.readShape_of_takes hpairs htext
    have hdefaults : ServerConfig.ofJson (.object []) = {} ∧ DatabaseConfig.ofJson (.object []) = {} := ⟨rfl, rfl⟩
    rw [hdefaults.1] at hserver
    rw [hdefaults.2] at hmysql
    rw [Config.parse, hread]
    simp only [Config.ofJson, Json.get?, hheldServer, hheldMysql, if_true, String.reduceEq, if_false, hserver, hmysql]

theorem DatabaseChoice.Valid.settings {c : DatabaseChoice} (h : c.Valid) :
    c.settings.maxConnections ≠ 0 ∧ c.settings.host ≠ "" := by
  constructor
  · cases hconnections : c.maxConnections with
    | none => simp [DatabaseChoice.settings, hconnections]
    | some n => simpa [DatabaseChoice.settings, hconnections] using h.connections
  · cases hhost : c.host with
    | none => simp [DatabaseChoice.settings, hhost]
    | some s => simpa [DatabaseChoice.settings, hhost] using h.host

theorem Layout.load_eq {server : ServerChoice} {mysql : DatabaseChoice} {document : Json} (h : Layout server mysql document)
    {octets : List UInt8} (htext : IsText document octets) (hvalid : mysql.Valid) :
    Config.load (.ok octets) none = .ok ⟨server.settings, mysql.settings⟩ := by
  obtain ⟨text, rfl⟩ := htext.exists_encode
  exact load_eq_ok.2 ⟨_, ⟨text, rfl, h.parse_eq htext⟩, .unasked, hvalid.settings⟩

/-! ## Settings as a document -/

/-- every field is chosen -/
def ServerConfig.choice (c : ServerConfig) : ServerChoice := ⟨some c.host, some c.port, some c.logLevel⟩

def DatabaseConfig.choice (c : DatabaseConfig) : DatabaseChoice :=
  ⟨some c.host, some c.port, some c.user, some c.password, some c.database, some c.maxConnections,
    some c.retryIntervalSecs⟩

theorem layout_toJson (c : Config) : Layout c.server.choice c.mysql.choice c.toJson := by
  have hserver : Section c.server.choice.fields (some c.server.toJson) := .present (.refl _)
  have hmysql : Section c.mysql.choice.fields (some c.mysql.toJson) := .present (.refl _)
  exact .document hserver hmysql (.refl _)

theorem valid_choice {c : DatabaseConfig} (hconnections : c.maxConnections ≠ 0) (hhost : c.host ≠ "") : c.choice.Valid :=
  ⟨by simpa [DatabaseConfig.choice] using hconnections, by simpa [DatabaseConfig.choice] using hhost⟩

theorem load_compact {content : Except FileError (List UInt8)} {port : Option String} {c : Config}
    (h : Config.load content port = .ok c) : Config.load (.ok (Utf8.encode c.toJson.compact)) none = .ok c := by
  obtain ⟨c₀, -, hfollows, hconnections, hhost⟩ := load_eq_ok.1 h
  rw [← hfollows.mysql_eq] at hconnections hhost
  exact (layout_toJson c).load_eq (Json.isText_compact c.toJson) (valid_choice hconnections hhost)

/-! ## Main result -/

/-- **The layout of a document does not count.** A document that chooses some of the fields, whichever they are, is
loaded as the values chosen and the defaults of the others. This holds for every order of the members, for any members
that are no fields, on both levels, and for every way in which the document may be written: its blanks, its escapes,
its numerals. The compact text is one of these ways; and so settings that were loaded are loaded again out of their own
compact text. -/
theorem load_any_layout :
    (∀ server mysql document octets, Layout server mysql document → IsText document octets → mysql.Valid →
      Config.load (.ok octets) none = .ok ⟨server.settings, mysql.settings⟩) ∧
    (∀ document : Json, IsText document (Utf8.encode document.compact)) ∧
    ∀ content port c, Config.load content port = .ok c →
      Config.load (.ok (Utf8.encode c.toJson.compact)) none = .ok c :=
  ⟨fun _ _ _ _ h htext hvalid => h.load_eq htext hvalid, Json.isText_compact, fun _ _ _ => load_compact⟩

/-- the section of the server is missing, that of the database out of order, and there is more on both levels -/
def sparse : Json :=
  .object [("", .array [.null, .object [("server", .bool true)]]),
    ("mysql", .object [("database", .null), ("ports", .natural 1), ("host", .string "d\"b\n𝄞"),
      ("max_connections", .natural 4294967295), ("ports", .string "")])]

/-- what `sparse` chooses -/
def sparseChoice : DatabaseChoice :=
  { host := some "d\"b\n𝄞", database := some none, maxConnections := some 4294967295 }

theorem layout_sparse : Layout {} sparseChoice sparse := by
  have harranges : Arranges sparseChoice.fields (((sparse.get? "mysql").map Json.members).getD []) := List.Perm.swap _ _ _
  have hmysql : Section sparseChoice.fields (sparse.get? "mysql") := .present harranges
  have hall : Arranges [("server", none), ("mysql", sparse.get? "mysql")] sparse.members := .refl _
  exact .document (.missing rfl) hmysql hall

theorem load_any_layout_sparse :
    Config.load (.ok (Utf8.encode sparse.compact)) none = .ok ⟨{}, sparseChoice.settings⟩ := by
  have hvalid : sparseChoice.Valid := ⟨by decide, by decide⟩
  exact load_any_layout.1 {} sparseChoice sparse _ layout_sparse (load_any_layout.2.1 sparse) hvalid

/-- blanks, escapes and a number that no double reaches -/
example :
    Config.load (.ok (Utf8.encode
      " \x7b \"mysql\":\n\x7b\"port\" :3307,\"host\":\"\\u0064b\\/\"\x7d,\t\"x\":1e999\x7d\n")) none =
      .ok { mysql := { host := "db/", port := 3307 } } := by
  rfl

end SqlGateway
