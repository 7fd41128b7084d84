import HostLookup.Proofs.Origins
import HostLookup.Proofs.Tokens
import HostLookup.Settings
import Mathlib.Data.List.Nodup

/-! Options that are filled in from the environment, one after the other. Each depends on its own value and its own
variable alone, so that a pass over them settles them all, or it fails at the first whose variable cannot be read. -/
namespace HostLookup
open Text

namespace Environment

variable {env : Environment} {name : String}

/-- A variable that counts: it is there, and it is not blank. -/
def Holds (env : Environment) (name text : String) : Prop :=
  env name = some text ∧ ¬ Blank text

def Lacks (env : Environment) (name : String) : Prop :=
  ∀ text, env name = some text → Blank text

theorem find?_eq_some_iff {text : String} : env.find? name = some text ↔ env.Holds name text := by
  simp [find?, Holds, Blank, Option.filter_eq_some_iff, ← trim_eq_nil_iff]

theorem find?_eq_none_iff : env.find? name = none ↔ env.Lacks name := by
  simp [find?, Lacks, Blank, Option.filter_eq_none_iff, ← trim_eq_nil_iff]

end Environment

namespace Settings

/-- The options of a session, in the order in which they are filled in. -/
inductive Field
  | flags | timeout | tries | ndots | udpPort | tcpPort | servers
deriving DecidableEq

namespace Field

def all : List Field :=
  [.flags, .timeout, .tries, .ndots, .udpPort, .tcpPort, .servers]

abbrev Value : Field → Type
  | .flags => Int32
  | .timeout => Duration
  | .tries | .ndots => UInt32
  | .udpPort | .tcpPort => UInt16
  | .servers => List String

def key : Field → String
  | .flags => Environment.flags
  | .timeout => Environment.timeout
  | .tries => Environment.tries
  | .ndots => Environment.ndots
  | .udpPort => Environment.udpPort
  | .tcpPort => Environment.tcpPort
  | .servers => Environment.servers

def value? : (field : Field) → Settings → Option field.Value
  | .flags, s => s.flags
  | .timeout, s => s.timeout
  | .tries, s => s.tries
  | .ndots, s => s.ndots
  | .udpPort, s => s.udpPort
  | .tcpPort, s => s.tcpPort
  | .servers, s => s.servers

def put : (field : Field) → Settings → field.Value → Settings
  | .flags, s, value => { s with flags := some value }
  | .timeout, s, value => { s with timeout := some value }
  | .tries, s, value => { s with tries := some value }
  | .ndots, s, value => { s with ndots := some value }
  | .udpPort, s, value => { s with udpPort := some value }
  | .tcpPort, s, value => { s with tcpPort := some value }
  | .servers, s, value => { s with servers := some value }

/-- Numbers are read without the white space around them. Any text at all lists servers. -/
def read? : (field : Field) → String → Option field.Value
  | .flags, text => parseInt32? (trim text.toList)
  | .timeout, text => Seconds.parse? (trim text.toList)
  | .tries, text | .ndots, text => parseUInt32? (trim text.toList)
  | .udpPort, text | .tcpPort, text => parsePort? (trim text.toList)
  | .servers, text => some (parseServers text)

def complaint (field : Field) (text : String) : LookupError :=
  .value (field.key ++ ": invalid value " ++ quote text)

def fill (env : Environment) (s : Settings) (field : Field) : Except LookupError Settings :=
  match field.value? s, env.find? field.key with
  | none, some text =>
    match field.read? text with
    | some value => .ok (field.put s value)
    | none => .error (field.complaint text)
  | _, _ => .ok s

variable {field other : Field} {s : Settings}

theorem mem_all : field ∈ all := by
  cases field <;> decide

theorem nodup_all : all.Nodup := by
  decide

theorem key_injective : key.Injective := by
  intro field other same
  cases field <;> cases other <;> first | rfl | exact absurd same (by decide)

@[simp] theorem value?_put {value : field.Value} : field.value? (field.put s value) = some value := by
  cases field <;> rfl

theorem value?_put_of_ne {value : field.Value} (ne : other ≠ field) :
    other.value? (field.put s value) = other.value? s := by
  cases field <;> cases other <;> first | rfl | contradiction

end Field

variable {env env' : Environment} {s t : Settings} {field other : Field} {fields : List Field} {fault : LookupError}

theorem Field.fill_bind (field : Field) (parse? : List Char → Option field.Value)
    (set : Option field.Value → Settings) (next : Settings → Except LookupError Settings)
    (reads : ∀ text, field.read? text = parse? (trim text.toList))
    (same : set (field.value? s) = s) (put : ∀ value, set (some value) = field.put s value) :
    (field.fill env s >>= next) =
      (Settings.fill env field.key parse? (field.value? s) >>= fun option => next (set option)) := by
  cases option : field.value? s with
  | some value =>
    rw [option] at same
    simp [Field.fill, Settings.fill, option, same, bind, Except.bind]
  | none =>
    rw [option] at same
    cases found : env.find? field.key with
    | none => simp [Field.fill, Settings.fill, option, found, same, bind, Except.bind]
    | some text =>
      cases value : parse? (trim text.toList) with
      | none => simp [Field.fill, Settings.fill, option, found, reads, value, complaint, bind, Except.bind]
      | some value' => simp [Field.fill, Settings.fill, option, found, reads, value, put, bind, Except.bind]

theorem withDefaults_eq (env : Environment) (s : Settings) :
    s.withDefaults env = Field.all.foldlM (Field.fill env) s := by
  simp only [withDefaults, Field.all, List.foldlM_cons, List.foldlM_nil]
  rw [Field.fill_bind .flags parseInt32? (fun flags => { s with flags }) _ (fun _ => rfl) rfl fun _ => rfl]
  refine bind_congr fun flags => ?_
  rw [Field.fill_bind .timeout Seconds.parse? (fun timeout => { s with flags, timeout }) _
    (fun _ => rfl) rfl fun _ => rfl]
  refine bind_congr fun timeout => ?_
  rw [Field.fill_bind .tries parseUInt32? (fun tries => { s with flags, timeout, tries }) _
    (fun _ => rfl) rfl fun _ => rfl]
  refine bind_congr fun tries => ?_
  rw [Field.fill_bind .ndots parseUInt32? (fun ndots => { s with flags, timeout, tries, ndots }) _
    (fun _ => rfl) rfl fun _ => rfl]
  refine bind_congr fun ndots => ?_
  rw [Field.fill_bind .udpPort parsePort? (fun udpPort => { s with flags, timeout, tries, ndots, udpPort }) _
    (fun _ => rfl) rfl fun _ => rfl]
  refine bind_congr fun udpPort => ?_
  rw [Field.fill_bind .tcpPort parsePort?
    (fun tcpPort => { s with flags, timeout, tries, ndots, udpPort, tcpPort }) _ (fun _ => rfl) rfl fun _ => rfl]
  refine bind_congr fun tcpPort => ?_
  obtain ⟨-, -, -, -, -, -, _ | names⟩ := s
  · simp only [Field.fill, Field.value?, Field.key, Field.read?, Field.put]
    cases env.find? Environment.servers <;> rfl
  · rfl

/-- What comes of an option: it stays, or there is nothing to fill it in from, or its variable is read. -/
inductive Settles (env : Environment) (s t : Settings) (field : Field) : Prop
  | kept {value : field.Value} (set : field.value? s = some value) (same : field.value? t = some value)
  | empty (unset : field.value? s = none) (lacks : env.Lacks field.key) (still : field.value? t = none)
  | read {text : String} {value : field.Value} (unset : field.value? s = none) (holds : env.Holds field.key text)
      (reads : field.read? text = some value) (now : field.value? t = some value)

/-- An option is not set, and its variable has a text that is no value of it. -/
def Malformed (env : Environment) (s : Settings) (field : Field) (text : String) : Prop :=
  field.value? s = none ∧ env.Holds field.key text ∧ field.read? text = none

namespace Settles

theorem not_malformed {text : String} (settles : Settles env s t field) : ¬ Malformed env s field text := by
  rintro ⟨unset, holds, fails⟩
  cases settles with
  | kept set => exact nomatch set.symm.trans unset
  | empty _ lacks => exact holds.2 (lacks text holds.1)
  | read _ other reads =>
    obtain rfl := Option.some.inj (other.1.symm.trans holds.1)
    exact nomatch reads.symm.trans fails

theorem congr {s' t' : Settings} (settles : Settles env s t field) (before : field.value? s' = field.value? s)
    (after : field.value? t' = field.value? t) : Settles env s' t' field := by
  cases settles with
  | kept set same => exact .kept (before.trans set) (after.trans same)
  | empty unset lacks still => exact .empty (before.trans unset) lacks (after.trans still)
  | read unset holds reads now => exact .read (before.trans unset) holds reads (after.trans now)

theorem unset (settles : Settles env s t field) (still : field.value? t = none) : field.value? s = none := by
  cases settles with
  | kept _ same => exact nomatch same.symm.trans still
  | empty before => exact before
  | read before => exact before

theorem fill_eq (settles : Settles env s t field) : field.fill env t = .ok t := by
  cases settles with
  | kept set same => simp [Field.fill, same]
  | empty unset lacks still => simp [Field.fill, still, Environment.find?_eq_none_iff.mpr lacks]
  | read unset holds reads now => simp [Field.fill, now]

end Settles

theorem fill_ok (filled : field.fill env s = .ok t) :
    Settles env s t field ∧ ∀ other, other ≠ field → other.value? t = other.value? s := by
  unfold Field.fill at filled
  split at filled
  · next text unset found =>
    split at filled
    · next value reads =>
      obtain rfl := Except.ok.inj filled
      exact ⟨.read unset (Environment.find?_eq_some_iff.mp found) reads Field.value?_put,
        fun other ne => Field.value?_put_of_ne ne⟩
    · contradiction
  · next untouched =>
    obtain rfl := Except.ok.inj filled
    refine ⟨?_, fun _ _ => rfl⟩
    cases option : field.value? s with
    | some value => exact .kept option option
    | none =>
      cases found : env.find? field.key with
      | some text => exact absurd found (untouched text option)
      | none => exact .empty option (Environment.find?_eq_none_iff.mp found) option

theorem fill_error (failed : field.fill env s = .error fault) :
    ∃ text, Malformed env s field text ∧ fault = field.complaint text := by
  unfold Field.fill at failed
  split at failed
  · next text unset found =>
    split at failed
    · contradiction
    · next fails =>
      exact ⟨text, ⟨unset, Environment.find?_eq_some_iff.mp found, fails⟩, (Except.error.inj failed).symm⟩
  · contradiction

theorem foldlM_fill_ok (distinct : fields.Nodup) (filled : fields.foldlM (Field.fill env) s = .ok t) :
    (∀ field ∈ fields, Settles env s t field) ∧ ∀ field ∉ fields, field.value? t = field.value? s := by
  induction fields generalizing s with
  | nil =>
    obtain rfl := Except.ok.inj filled
    simp
  | cons first rest ih =>
    obtain ⟨fresh, distinct⟩ := List.nodup_cons.mp distinct
    rw [List.foldlM_cons] at filled
    obtain ⟨next, one, others⟩ := bind_eq_ok.mp filled
    obtain ⟨settled, frame⟩ := fill_ok one
    obtain ⟨later, rest⟩ := ih distinct others
    refine ⟨fun field member => ?_, fun field other => ?_⟩
    · rcases List.mem_cons.mp member with rfl | member
      · exact settled.congr rfl (rest field fresh)
      · exact (later field member).congr (frame field (ne_of_mem_of_not_mem member fresh)).symm rfl
    · obtain ⟨ne, absent⟩ := not_or.mp (mt List.mem_cons.mpr other)
      exact (rest field absent).trans (frame field ne)

theorem foldlM_fill_error (distinct : fields.Nodup) (failed : fields.foldlM (Field.fill env) s = .error fault) :
    ∃ before field after text, fields = before ++ field :: after ∧
      (∀ other ∈ before, ∀ text, ¬ Malformed env s other text) ∧
      Malformed env s field text ∧ fault = field.complaint text := by
  induction fields generalizing s with
  | nil => exact nomatch failed
  | cons first rest ih =>
    obtain ⟨fresh, distinct⟩ := List.nodup_cons.mp distinct
    rw [List.foldlM_cons] at failed
    rcases bind_eq_error failed with here | ⟨next, one, others⟩
    · obtain ⟨text, malformed, rfl⟩ := fill_error here
      exact ⟨[], first, rest, text, rfl, by simp, malformed, rfl⟩
    · obtain ⟨settled, frame⟩ := fill_ok one
      obtain ⟨before, field, after, text, rfl, sound, malformed, rfl⟩ := ih distinct others
      -- the options that come later are as they were at the start
      have same other (member : other ∈ before ++ field :: after) : other.value? next = other.value? s :=
        frame other (ne_of_mem_of_not_mem member fresh)
      refine ⟨first :: before, field, after, text, rfl, fun other member text => ?_, ?_, rfl⟩
      · rcases List.mem_cons.mp member with rfl | member
        · exact settled.not_malformed
        · rw [Malformed, ← same other (by simp [member])]
          exact sound other member text
      · rwa [Malformed, ← same field (by simp)]

theorem foldlM_fill_congr (agree : ∀ field ∈ fields, field.value? s = none → env' field.key = env field.key) :
    fields.foldlM (Field.fill env') s = fields.foldlM (Field.fill env) s := by
  induction fields generalizing s with
  | nil => rfl
  | cons first rest ih =>
    have one : first.fill env' s = first.fill env s := by
      cases option : first.value? s with
      | some value => simp [Field.fill, option]
      | none => simp [Field.fill, Environment.find?, agree first (by simp) option]
    rw [List.foldlM_cons, List.foldlM_cons, one]
    cases filled : first.fill env s with
    | error fault => rfl
    | ok next =>
      obtain ⟨settled, frame⟩ := fill_ok filled
      refine ih fun field member unset => agree field (List.mem_cons_of_mem first member) ?_
      by_cases same : field = first
      · subst same
        exact settled.unset unset
      · exact (frame field same).symm.trans unset

theorem foldlM_fill_settled (settles : ∀ field ∈ fields, Settles env s t field) :
    fields.foldlM (Field.fill env) t = .ok t := by
  induction fields with
  | nil => rfl
  | cons first rest ih =>
    rw [List.foldlM_cons, (settles first (by simp)).fill_eq]
    exact ih fun field member => settles field (List.mem_cons_of_mem first member)

theorem withDefaults_settles (filled : s.withDefaults env = .ok t) (field : Field) : Settles env s t field :=
  (foldlM_fill_ok Field.nodup_all (withDefaults_eq env s ▸ filled)).1 field Field.mem_all

/-- To fill in options is to take each unset one from its variable, if that is there and not blank, and to keep each
that is set. This fails if and only if a variable of an unset option is malformed, with what is said of the first such
variable; a list of servers never is. The variables of options that are set do not matter, and to fill in the result
again gives it back. -/
theorem options_filled_in (env : Environment) (s : Settings) :
    ((∃ fault, s.withDefaults env = .error fault) ↔ ∃ field text, Malformed env s field text) ∧
    (∀ text, ¬ Malformed env s .servers text) ∧
    (∀ fault, s.withDefaults env = .error fault → ∃ before field after text, Field.all = before ++ field :: after ∧
      (∀ other ∈ before, ∀ text, ¬ Malformed env s other text) ∧ Malformed env s field text ∧
      fault = .value (field.key ++ ": invalid value " ++ quote text)) ∧
    (∀ t, s.withDefaults env = .ok t → (∀ field, Settles env s t field) ∧ t.withDefaults env = .ok t) ∧
    (∀ env' : Environment, (∀ field : Field, field.value? s = none → env' field.key = env field.key) →
      s.withDefaults env' = s.withDefaults env) ∧
    ∀ (field : Field) (text : Option String), (field.value? s).isSome →
      s.withDefaults (Function.update env field.key text) = s.withDefaults env := by
  have first fault (failed : s.withDefaults env = .error fault) :=
    foldlM_fill_error Field.nodup_all (withDefaults_eq env s ▸ failed)
  have agreeing (env' : Environment) (agree : ∀ field : Field, field.value? s = none → env' field.key = env field.key) :
      s.withDefaults env' = s.withDefaults env := by
    rw [withDefaults_eq, withDefaults_eq]
    exact foldlM_fill_congr fun field _ => agree field
  refine ⟨⟨?_, ?_⟩, ?_, first, fun t filled => ?_, agreeing, ?_⟩
  · rintro ⟨fault, failed⟩
    obtain ⟨-, field, -, text, -, -, malformed, -⟩ := first fault failed
    exact ⟨field, text, malformed⟩
  · rintro ⟨field, text, malformed⟩
    cases outcome : s.withDefaults env with
    | error fault => exact ⟨fault, rfl⟩
    | ok t => exact absurd malformed (withDefaults_settles outcome field).not_malformed
  · rintro text ⟨-, -, fails⟩
    exact nomatch fails
  · have settles := withDefaults_settles filled
    exact ⟨settles, (withDefaults_eq env t).trans (foldlM_fill_settled fun field _ => settles field)⟩
  · intro field text set
    refine agreeing _ fun other unset => ?_
    have different : other.key ≠ field.key := by
      intro same
      obtain rfl := Field.key_injective same
      simp [unset] at set
    simp [Function.update, different]

theorem options_filled_in_ports :
    let env : Environment := Function.update Environment.empty Environment.udpPort (some "70000")
    (∃ fault, ({} : Settings).withDefaults env = .error fault) ∧
      ({ udpPort := some 53 } : Settings).withDefaults env = ({ udpPort := some 53 } : Settings).withDefaults .empty := by
  refine ⟨(options_filled_in _ {}).1.mpr ⟨.udpPort, "70000", rfl, ⟨rfl, ?_⟩, ?_⟩, ?_⟩
  · decide
  · decide
  · exact (options_filled_in .empty { udpPort := some 53 }).2.2.2.2.2 .udpPort (some "70000") rfl

theorem parseServers_eq_nil_iff {text : String} :
    parseServers text = [] ↔ ∀ c ∈ text.toList, c = ',' ∨ isBlank c = true := by
  simp [parseServers, tokens_eq_nil_iff, separatesServers]

theorem mem_parseServers {text name : String} (member : name ∈ parseServers text) :
    name ≠ "" ∧ ∀ c ∈ name.toList, c ≠ ',' ∧ isBlank c = false := by
  obtain ⟨token, found, rfl⟩ := List.mem_map.mp member
  obtain ⟨content, plain⟩ := mem_tokens found
  refine ⟨by simpa using content, fun c inside => ?_⟩
  simpa [separatesServers] using plain c (by simpa using inside)

theorem separators_not_blank_iff {text : String} (separators : ∀ c ∈ text.toList, c = ',' ∨ isBlank c = true) :
    ¬ Blank text ↔ ',' ∈ text.toList := by
  constructor
  · intro content
    by_contra none
    exact content fun c member => (separators c member).resolve_left fun comma => none (comma ▸ member)
  · intro comma blank
    exact absurd (blank ',' comma) (by decide)

/-- Servers that were not set stay so if and only if their variable is missing or blank. Otherwise they are a list of
names without commas and white space, none of them empty. The list itself is empty if and only if the variable has a
comma and nothing else but commas and white space: such a value is not blank, and no server is named by it. -/
theorem servers_filled_in (unset : s.servers = none) (filled : s.withDefaults env = .ok t) :
    (t.servers = none ↔ env.Lacks Environment.servers) ∧
    (∀ names, t.servers = some names →
      ∀ name ∈ names, name ≠ "" ∧ ∀ c ∈ name.toList, c ≠ ',' ∧ isBlank c = false) ∧
    (t.servers = some [] ↔ ∃ text, env Environment.servers = some text ∧ ',' ∈ text.toList ∧
      ∀ c ∈ text.toList, c = ',' ∨ isBlank c = true) := by
  cases withDefaults_settles filled .servers with
  | kept set => exact nomatch set.symm.trans unset
  | empty _ lacks still =>
    change t.servers = none at still
    refine ⟨by simp [still, show env.Lacks Environment.servers from lacks], by simp [still], ?_⟩
    simp only [still, reduceCtorEq, false_iff, not_exists, not_and]
    exact fun text present comma separators =>
      (separators_not_blank_iff separators).mpr comma (lacks text present)
  | @read text names _ holds reads now =>
    change t.servers = some names at now
    obtain rfl : parseServers text = names := Option.some.inj reads
    refine ⟨?_, ?_, ?_⟩
    · simp only [now, reduceCtorEq, false_iff]
      exact fun lacks => holds.2 (lacks text holds.1)
    · rintro names same
      obtain rfl := Option.some.inj (now.symm.trans same)
      exact fun name => mem_parseServers
    · rw [now, Option.some_inj, parseServers_eq_nil_iff]
      constructor
      · exact fun separators => ⟨text, holds.1, (separators_not_blank_iff separators).mp holds.2, separators⟩
      · rintro ⟨other, present, -, separators⟩
        obtain rfl := Option.some.inj (present.symm.trans holds.1)
        exact separators

theorem servers_filled_in_comma :
    let env : Environment := Function.update Environment.empty Environment.servers (some ",")
    ∃ t, ({} : Settings).withDefaults env = .ok t ∧ t.servers = some [] := by
  intro env
  have filled : ({} : Settings).withDefaults env = .ok { servers := some (parseServers ",") } := rfl
  exact ⟨_, filled, (servers_filled_in rfl filled).2.2.mpr ⟨",", rfl, by simp, by simp⟩⟩

end Settings

end HostLookup
