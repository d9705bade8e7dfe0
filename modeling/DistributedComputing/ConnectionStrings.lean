import DistributedComputing.ConnInfo
import DistributedComputing.MongoUri

/-!
# Connection strings

The brokers put the configured values into their connection strings as they are, while the
migration scripts percent-encode user and password.  A connection string carries the
configuration exactly when every value in it stands for itself in the grammar of the database.
-/

namespace DistributedComputing

inductive AuthentificationMethod
  | password
  | ssl
  deriving DecidableEq

structure SSLCertificates where
  rootcert : Bytes
  cert : Bytes
  key : Bytes

/-- The values come from environment variables, which end at a zero. -/
structure DbConfig where
  host : Bytes
  port : Bytes
  user : Bytes
  password : Bytes
  dbname : Bytes
  mongoAuthSource : Bytes
  authMethod : AuthentificationMethod
  ssl : SSLCertificates
  noZero : ∀ text ∈ [host, port, user, password, dbname, mongoAuthSource, ssl.rootcert, ssl.cert,
    ssl.key], 0 ∉ text

namespace DbConfig

/-- What the master checks before it connects. -/
def HasCredentials (config : DbConfig) : Prop :=
  match config.authMethod with
  | .password => config.user ≠ [] ∧ config.password ≠ []
  | .ssl => config.ssl.rootcert ≠ [] ∧ config.ssl.cert ≠ [] ∧ config.ssl.key ≠ []

/-- What PostgreSQL is meant to be told. -/
def settings (config : DbConfig) : List ConnInfo.Setting :=
  [(ascii "host", config.host), (ascii "port", config.port), (ascii "dbname", config.dbname)] ++
    match config.authMethod with
    | .password => [(ascii "user", config.user), (ascii "password", config.password)]
    | .ssl =>
        [(ascii "sslmode", ascii "verify-full"), (ascii "sslrootcert", config.ssl.rootcert),
          (ascii "sslcert", config.ssl.cert), (ascii "sslkey", config.ssl.key)]

/-- The options of a connection to MongoDB with a password. -/
def options (config : DbConfig) : List (Bytes × Bytes) :=
  [(ascii "authSource", config.mongoAuthSource), (ascii "serverSelectionTimeoutMS", ascii "2000"),
    (ascii "connectTimeoutMS", ascii "2000")]

/-- What MongoDB is meant to be told. -/
def uri (config : DbConfig) : MongoUri where
  username := some config.user
  password := some config.password
  hosts := [(config.host, some config.port)]
  options := config.options

/-- All values stand for themselves. -/
structure Plain (config : DbConfig) : Prop where
  settings : ∀ setting ∈ config.settings, ConnInfo.Plain setting.2
  uri : config.authMethod = .password →
    MongoUri.Plain config.user config.password config.host config.port
  authSource : config.authMethod = .password →
    MongoUri.avoids "&%" config.mongoAuthSource = true

end DbConfig

/-! ## The brokers -/

def PgBroker.generateConnectionString (config : DbConfig) : Bytes :=
  let out := ascii "host=" ++ config.host ++ ascii " " ++
    ascii "port=" ++ config.port ++ ascii " " ++
    ascii "dbname=" ++ config.dbname ++ ascii " "
  match config.authMethod with
  | .password =>
      out ++ ascii "user=" ++ config.user ++ ascii " " ++
        ascii "password=" ++ config.password ++ ascii " "
  | .ssl =>
      out ++ ascii "sslmode=" ++ ascii "verify-full" ++ ascii " " ++
        ascii "sslrootcert=" ++ config.ssl.rootcert ++ ascii " " ++
        ascii "sslcert=" ++ config.ssl.cert ++ ascii " " ++
        ascii "sslkey=" ++ config.ssl.key ++ ascii " "

def MongoBroker.generateConnectionString (config : DbConfig) : Bytes :=
  match config.authMethod with
  | .password =>
      ascii "mongodb://" ++ config.user ++ ascii ":" ++ config.password ++ ascii "@" ++
        config.host ++ ascii ":" ++ config.port ++ ascii "/?authSource=" ++
        config.mongoAuthSource ++ ascii "&serverSelectionTimeoutMS=" ++ ascii "2000" ++
        ascii "&connectTimeoutMS=" ++ ascii "2000"
  | .ssl =>
      ascii "mongodb://" ++ config.host ++ ascii ":" ++ config.port ++
        ascii "/?ssl=true&sslclientcertificatekeyfile=" ++ config.ssl.cert ++
        ascii "&ssl_key=" ++ config.ssl.key ++ ascii "&ssl_ca_cert=" ++ config.ssl.rootcert ++
        ascii "&serverSelectionTimeoutMS=" ++ ascii "2000" ++
        ascii "&connectTimeoutMS=" ++ ascii "2000"

theorem PgBroker.generateConnectionString_eq (config : DbConfig) :
    generateConnectionString config = ConnInfo.render config.settings := by
  unfold generateConnectionString DbConfig.settings
  cases config.authMethod with
  | password => simp [ConnInfo.render, ascii]
  | ssl => simp [ConnInfo.render, ascii]

theorem MongoBroker.generateConnectionString_eq {config : DbConfig}
    (password : config.authMethod = .password) :
    generateConnectionString config =
      MongoUri.render config.user config.password config.host config.port
        (MongoUri.renderOptions config.options) := by
  rw [generateConnectionString, password]
  simp [MongoUri.render, MongoUri.scheme, MongoUri.authority, MongoUri.renderOptions,
    MongoUri.renderOption, DbConfig.options, ascii]

/-! ## The scripts -/

/-- What `urllib.parse.quote` never encodes. -/
def isUnreserved (value : UInt8) : Bool :=
  decide (48 ≤ value.toNat ∧ value.toNat ≤ 57 ∨ 65 ≤ value.toNat ∧ value.toNat ≤ 90 ∨
    97 ≤ value.toNat ∧ value.toNat ≤ 122) || (ascii "_.-~").contains value

/-- `quote(text, safe='')`. -/
def quote (text : Bytes) : Bytes :=
  percentEncode isUnreserved text

def quotePlus (text : Bytes) : Bytes :=
  (percentEncode (fun value => isUnreserved value || decide (value = byte ' ')) text).map
    blankAsPlus

/-- `build_database_url`, with the options at its end. -/
def InitPg.buildDatabaseUrl (host port user password dbname queryPart : Bytes) : Bytes :=
  let authority := host ++ ascii ":" ++ port
  let authority :=
    if user = [] then authority
    else if password = [] then quote user ++ ascii "@" ++ authority
    else quote user ++ ascii ":" ++ quote password ++ ascii "@" ++ authority
  ascii "postgresql://" ++ authority ++ ascii "/" ++ quote dbname ++ queryPart

/-- `build_mongo_url` with a password. -/
def InitMongo.buildMongoUrl (host port user password authSource : Bytes) : Bytes :=
  let auth :=
    if user = [] then []
    else if password = [] then quotePlus user ++ ascii "@"
    else quotePlus user ++ ascii ":" ++ quotePlus password ++ ascii "@"
  let queryPart := if user = [] then [] else ascii "?authSource=" ++ quotePlus authSource
  ascii "mongodb://" ++ auth ++ host ++ ascii ":" ++ port ++ ascii "/" ++ queryPart

/-- What stands between the slashes after the scheme and the first at sign. -/
def userInfo (url : Bytes) : Option Bytes :=
  (splitOnce (byte '/') url).bind fun split => (splitOnce (byte '@') split.2.tail).map Prod.fst

/-- The user and the password of a connection to PostgreSQL. -/
def PgBroker.credentials (config : DbConfig) : Option (Bytes × Option Bytes) :=
  (ConnInfo.parse (generateConnectionString config)).bind fun settings =>
    (ConnInfo.valueOf (ascii "user") settings).map fun user =>
      (user, ConnInfo.valueOf (ascii "password") settings)

def MongoBroker.credentials (config : DbConfig) : Option (Bytes × Option Bytes) :=
  (MongoUri.parse (generateConnectionString config)).bind fun uri =>
    uri.username.map fun user => (user, uri.password)

def InitPg.credentials (config : DbConfig) (queryPart : Bytes) : Option (Bytes × Option Bytes) :=
  (userInfo (buildDatabaseUrl config.host config.port config.user config.password config.dbname
    queryPart)).bind MongoUri.parseUser

/-- The client of the script reads plus signs as blanks. -/
def InitMongo.credentials (config : DbConfig) : Option (Bytes × Option Bytes) :=
  (userInfo (buildMongoUrl config.host config.port config.user config.password
    config.mongoAuthSource)).bind fun info => MongoUri.parseUser (info.map plusAsBlank)

/-- What is read back from user information whose texts have been encoded. -/
theorem parseUser_percentEncode {keep : UInt8 → Bool} (percent : keep (byte '%') = false)
    (colon : mayBeEncoded keep (byte ':') = false) (user password : Bytes) :
    MongoUri.parseUser (percentEncode keep user ++ byte ':' :: percentEncode keep password) =
      some (user, some password) := by
  have split : splitOnce (byte ':')
      (percentEncode keep user ++ byte ':' :: percentEncode keep password) =
        some (percentEncode keep user, percentEncode keep password) :=
    splitOnce_eq_some_iff.mpr ⟨rfl, not_mem_percentEncode colon user⟩
  rw [MongoUri.parseUser, split, Option.elim_some, if_neg (not_mem_percentEncode colon password),
    percentDecode_percentEncode percent, Option.bind_some, percentDecode_percentEncode percent,
    Option.map_some]

theorem userInfo_eq {scheme info : Bytes} (slash : byte '/' ∉ scheme) (atSign : byte '@' ∉ info)
    (rest : Bytes) :
    userInfo (scheme ++ byte '/' :: byte '/' :: (info ++ byte '@' :: rest)) = some info := by
  rw [userInfo, splitOnce_eq_some_iff.mpr ⟨rfl, slash⟩, Option.bind_some, List.tail_cons,
    splitOnce_eq_some_iff.mpr ⟨rfl, atSign⟩, Option.map_some]

/-- What a map of bytes leaves alone is not in the image of the others. -/
theorem not_mem_map_blankAsPlus {text : Bytes} {delimiter : UInt8} (absent : delimiter ∉ text)
    (notPlus : delimiter ≠ byte '+') : delimiter ∉ text.map blankAsPlus := by
  intro member
  obtain ⟨value, inside, same⟩ := List.mem_map.mp member
  unfold blankAsPlus at same
  split at same
  · exact notPlus same.symm
  · exact absent (same ▸ inside)

theorem map_plusAsBlank_map_blankAsPlus {text : Bytes} (absent : byte '+' ∉ text) :
    (text.map blankAsPlus).map plusAsBlank = text := by
  rw [List.map_map]
  conv_rhs => rw [← List.map_id text]
  refine List.map_congr_left fun value inside => ?_
  have notPlus : value ≠ byte '+' := fun same => absent (same ▸ inside)
  rw [Function.comp_apply, id_eq]
  unfold blankAsPlus
  split
  · rename_i blank
    rw [blank]
    decide
  · exact if_neg notPlus

section Scripts

variable {config : DbConfig} (user : config.user ≠ []) (password : config.password ≠ [])

include user password

/-- The script for PostgreSQL logs in with the configured user and password. -/
theorem InitPg.credentials_eq (queryPart : Bytes) :
    credentials config queryPart = some (config.user, some config.password) := by
  have atSign : byte '@' ∉ quote config.user ++ byte ':' :: quote config.password := by
    rw [List.mem_append, List.mem_cons, not_or, not_or]
    exact ⟨not_mem_percentEncode (by decide) _, by decide,
      not_mem_percentEncode (by decide) _⟩
  have url : buildDatabaseUrl config.host config.port config.user config.password config.dbname
      queryPart = ascii "postgresql:" ++ byte '/' :: byte '/' ::
        (quote config.user ++ byte ':' :: quote config.password ++ byte '@' ::
          (config.host ++ byte ':' :: config.port ++ byte '/' ::
            (quote config.dbname ++ queryPart))) := by
    rw [buildDatabaseUrl, if_neg user, if_neg password]
    simp [ascii]
  rw [credentials, url, userInfo_eq (by decide) atSign, Option.bind_some]
  exact parseUser_percentEncode (by decide) (by decide) _ _

/-- So does the script for MongoDB. -/
theorem InitMongo.credentials_eq :
    credentials config = some (config.user, some config.password) := by
  have absent : ∀ text, byte '@' ∉ quotePlus text := fun text =>
    not_mem_map_blankAsPlus (not_mem_percentEncode (by decide) text) (by decide)
  have atSign : byte '@' ∉ quotePlus config.user ++ byte ':' :: quotePlus config.password := by
    rw [List.mem_append, List.mem_cons, not_or, not_or]
    exact ⟨absent _, by decide, absent _⟩
  have url : buildMongoUrl config.host config.port config.user config.password
      config.mongoAuthSource = ascii "mongodb:" ++ byte '/' :: byte '/' ::
        (quotePlus config.user ++ byte ':' :: quotePlus config.password ++ byte '@' ::
          (config.host ++ byte ':' :: config.port ++ byte '/' ::
            (ascii "?authSource=" ++ quotePlus config.mongoAuthSource))) := by
    rw [buildMongoUrl, if_neg user, if_neg password, if_neg user]
    simp [ascii]
  have colon : plusAsBlank (byte ':') = byte ':' := by decide
  have unquoted : ∀ text, (quotePlus text).map plusAsBlank =
      percentEncode (fun value => isUnreserved value || decide (value = byte ' ')) text :=
    fun text => map_plusAsBlank_map_blankAsPlus (not_mem_percentEncode (by decide) text)
  rw [credentials, url, userInfo_eq (by decide) atSign, Option.bind_some, List.map_append,
    List.map_cons, unquoted, unquoted, colon]
  exact parseUser_percentEncode (by decide) (by decide) _ _

end Scripts

/-! ## What is carried -/

/-- Both connection strings are read as the configuration, and they log in as the scripts do. -/
structure CarriesConfig (config : DbConfig) : Prop where
  pg : ConnInfo.Carries (PgBroker.generateConnectionString config) config.settings
  mongo : config.authMethod = .password →
    MongoUri.parse (MongoBroker.generateConnectionString config) = some config.uri
  pgScript : config.authMethod = .password → ∀ queryPart,
    PgBroker.credentials config = InitPg.credentials config queryPart
  mongoScript : config.authMethod = .password →
    MongoBroker.credentials config = InitMongo.credentials config

namespace DbConfig

theorem keyword_of_mem {config : DbConfig} {setting : ConnInfo.Setting}
    (member : setting ∈ config.settings) : ConnInfo.Keyword setting.1 := by
  have keywords : ∀ name ∈ ["host", "port", "dbname", "user", "password", "sslmode",
      "sslrootcert", "sslcert", "sslkey"].map ascii, name ≠ [] ∧
        (∀ element ∈ name, ConnInfo.isName element = true) ∧
        byte '\\' ∉ name ∧ byte '\'' ∉ name := by
    decide +kernel
  have known : setting.1 ∈ ["host", "port", "dbname", "user", "password", "sslmode",
      "sslrootcert", "sslcert", "sslkey"].map ascii := by
    unfold settings at member
    split at member <;>
      simp only [List.cons_append, List.nil_append, List.mem_cons, List.not_mem_nil,
        or_false] at member <;>
      rcases member with rfl | rfl | rfl | rfl | rfl | rfl | rfl <;>
      simp
  obtain ⟨nonempty, isName, noEscape, noQuote⟩ := keywords _ known
  exact ⟨nonempty, isName, noEscape, noQuote⟩

theorem nodup_settings (config : DbConfig) : (config.settings.map Prod.fst).Nodup := by
  unfold settings
  split <;> simp only [List.cons_append, List.nil_append, List.map_cons, List.map_nil]
  · decide
  · decide

theorem last_filled {config : DbConfig} (filled : config.HasCredentials) :
    ∀ setting ∈ config.settings.getLast?, setting.2 ≠ [] := by
  unfold HasCredentials at filled
  unfold settings
  split at filled
  · rintro setting ⟨⟩
    exact filled.2
  · rintro setting ⟨⟩
    exact filled.2.2

theorem parseOptions_iff (config : DbConfig) :
    MongoUri.parseOptions (MongoUri.renderOptions config.options) = some config.options ↔
      MongoUri.avoids "&%" config.mongoAuthSource = true := by
  have names : ∀ option ∈ config.options, MongoUri.avoids "&%=" option.1 = true := by
    simp only [options, List.forall_mem_cons]
    decide
  have nonempty : config.options ≠ [] := List.cons_ne_nil _ _
  have fixed : MongoUri.avoids "&%" (ascii "2000") = true := by decide
  rw [MongoUri.parseOptions_renderOptions_iff nonempty names]
  simp [options, fixed]

end DbConfig

/-- The configuration is carried exactly when all its values stand for themselves. -/
theorem connectionStrings_carry_iff (config : DbConfig) (filled : config.HasCredentials) :
    CarriesConfig config ↔ config.Plain := by
  have pg := ConnInfo.carries_render_iff config.nodup_settings
    (fun setting => DbConfig.keyword_of_mem) (DbConfig.last_filled filled)
  rw [← PgBroker.generateConnectionString_eq] at pg
  have mongo : config.authMethod = .password →
      (MongoUri.parse (MongoBroker.generateConnectionString config) = some config.uri ↔
        MongoUri.Plain config.user config.password config.host config.port ∧
          MongoUri.avoids "&%" config.mongoAuthSource = true) := by
    intro password
    rw [MongoBroker.generateConnectionString_eq password, ← config.parseOptions_iff]
    exact MongoUri.parse_render_iff
  constructor
  · intro carries
    exact ⟨pg.mp carries.pg, fun password => ((mongo password).mp (carries.mongo password)).1,
      fun password => ((mongo password).mp (carries.mongo password)).2⟩
  · intro plain
    have carried := pg.mpr plain.settings
    have parsed := fun password =>
      (mongo password).mpr ⟨plain.uri password, plain.authSource password⟩
    refine ⟨carried, parsed, ?_, ?_⟩
    · intro password queryPart
      rw [DbConfig.HasCredentials, password] at filled
      obtain ⟨settings, areSettings, sameValues⟩ := carried
      rw [InitPg.credentials_eq filled.1 filled.2, PgBroker.credentials, areSettings,
        Option.bind_some, sameValues, sameValues]
      have user : (ascii "user", config.user) ∈ config.settings := by
        rw [DbConfig.settings, password]
        simp
      have secret : (ascii "password", config.password) ∈ config.settings := by
        rw [DbConfig.settings, password]
        simp
      rw [ConnInfo.valueOf_of_mem config.nodup_settings user,
        ConnInfo.valueOf_of_mem config.nodup_settings secret]
      rfl
    · intro password
      rw [DbConfig.HasCredentials, password] at filled
      rw [InitMongo.credentials_eq filled.1 filled.2, MongoBroker.credentials, parsed password]
      rfl

def DbConfig.localDatabase : DbConfig where
  host := ascii "localhost"
  port := ascii "5432"
  user := ascii "dc_user"
  password := ascii "s3cret!"
  dbname := ascii "tasks"
  mongoAuthSource := ascii "admin"
  authMethod := .password
  ssl := ⟨[], [], []⟩
  noZero := by decide

theorem connectionStrings_carry_localDatabase : CarriesConfig DbConfig.localDatabase := by
  refine (connectionStrings_carry_iff DbConfig.localDatabase
    ⟨by decide, by decide⟩).mpr
      ⟨fun setting member => ?_, fun _ => ⟨?_, ?_, ?_, ?_, ?_⟩, fun _ => ?_⟩
  · have plain : ∀ setting ∈ DbConfig.localDatabase.settings, setting.2 ≠ [] ∧
        setting.2.head? ≠ some (byte '\'') ∧ (∀ element ∈ setting.2, isBlank element = false) ∧
        byte '\\' ∉ setting.2 := by
      decide +kernel
    obtain ⟨nonempty, notQuoted, noBlank, noEscape⟩ := plain setting member
    exact ⟨nonempty, notQuoted, noBlank, noEscape⟩
  all_goals decide

/-- A password with a blank in it. -/
def DbConfig.blankInPassword : DbConfig :=
  { DbConfig.localDatabase with
    password := ascii "x sslmode=disable"
    noZero := by decide }

/-- What comes after the blank is read as a setting of its own. -/
theorem connectionString_injects_setting :
    ¬ ∀ config : DbConfig, config.HasCredentials → CarriesConfig config := by
  intro carries
  obtain ⟨settings, areSettings, sameValues⟩ :=
    (carries DbConfig.blankInPassword ⟨by decide, by decide⟩).pg
  have read : (ConnInfo.parse (PgBroker.generateConnectionString DbConfig.blankInPassword)).map
      (ConnInfo.valueOf (ascii "sslmode")) = some (some (ascii "disable")) := by
    decide +kernel
  have expected : ConnInfo.valueOf (ascii "sslmode") DbConfig.blankInPassword.settings = none := by
    decide
  rw [areSettings, Option.map_some, sameValues, expected] at read
  cases read

end DistributedComputing
