import Mathlib
import Telemetry.Settings.Tree

/-!
# The last entry of an option counts

Reading settings goes through the entries of a map with settings in hand. Whether an entry is wrong
does not depend on these (`Settings.flaw?`), and an entry that is not wrong changes one thing in them,
which its value alone decides: `PartialSettings.field` is what is kept for an option, and
`Tree.content` what a value puts there.

So the first wrong entry is the error (`PartialSettings.foldlM_entry_of_flaw`). Without one, what is
kept for an option in the end is the content of its last value (`PartialSettings.foldlM_entry`), and
it makes no difference in which order entries for different options come. User name, password and
authorization are such options too. They are put together only when all entries were read
(`PartialSettings.finish`), and that is why they may stand anywhere.
-/

namespace Telemetry

namespace SettingsOption

/-- A key as it is compared: in lower case and with underscores. -/
def normalKey (key : String) : String :=
  Text.lower (key.map fun c ↦ if c = '-' then '_' else c)

/-- **An option is known by its names**, and each name belongs to one option only. -/
theorem ofKey?_eq_some_iff {key : String} {o : SettingsOption} :
    ofKey? key = some o ↔ ∃ words, (words, o) ∈ names ∧ normalKey key ∈ words := by
  have hnames : ∀ entry ∈ names, ∀ word ∈ entry.1,
      names.find? (fun entry ↦ entry.1.contains word) = some entry := by
    decide
  rw [ofKey?, Text.lookup?, Option.map_eq_some_iff]
  constructor
  · rintro ⟨entry, hfind, rfl⟩
    exact ⟨entry.1, List.mem_of_find?_eq_some hfind, List.contains_iff_mem.1
      (List.find?_some (p := fun entry : List String × SettingsOption ↦
        entry.1.contains (normalKey key)) hfind)⟩
  · rintro ⟨words, hwords, hkey⟩
    exact ⟨_, hnames _ hwords _ hkey, rfl⟩

end SettingsOption

/-! ### What an entry changes -/

/-- What is kept for an option. -/
inductive Content where
  | url (u : Option Url)
  | text (s : String)
  | optional (s : Option String)
  | switch (b : Bool)
  | unit (u : TimeUnit)
  | mode (m : PayloadMode)
  | schema (v : Schema)
  | span (d : Span)

namespace PartialSettings

/-- What is kept for each option. -/
def field (p : PartialSettings) : SettingsOption → Content
  | .url => .url p.settings.url
  | .host => .text p.settings.host
  | .application => .optional p.settings.application
  | .instanceName => .optional p.settings.instanceName
  | .role => .optional p.settings.role
  | .description => .optional p.settings.description
  | .authorization => .optional p.settings.authorization
  | .username => .optional p.username
  | .password => .optional p.password
  | .deflate => .switch p.settings.deflate
  | .rateUnit => .unit p.settings.rateUnit
  | .durationUnit => .unit p.settings.durationUnit
  | .skipUnchanged => .switch p.settings.skipUnchanged
  | .mode => .mode p.settings.mode
  | .schema => .schema p.settings.schema
  | .connectTimeout => .span p.settings.connectTimeout
  | .requestTimeout => .span p.settings.requestTimeout

/-- There is nothing else in the settings. -/
theorem field_injective {p q : PartialSettings} (h : ∀ o, p.field o = q.field o) : p = q := by
  obtain ⟨⟨_⟩⟩ := p
  obtain ⟨⟨_⟩⟩ := q
  have hurl := Content.url.inj (h .url)
  have hhost := Content.text.inj (h .host)
  have happlication := Content.optional.inj (h .application)
  have hinstance := Content.optional.inj (h .instanceName)
  have hrole := Content.optional.inj (h .role)
  have hdescription := Content.optional.inj (h .description)
  have hauthorization := Content.optional.inj (h .authorization)
  have husername := Content.optional.inj (h .username)
  have hpassword := Content.optional.inj (h .password)
  have hdeflate := Content.switch.inj (h .deflate)
  have hrate := Content.unit.inj (h .rateUnit)
  have hduration := Content.unit.inj (h .durationUnit)
  have hskip := Content.switch.inj (h .skipUnchanged)
  have hmode := Content.mode.inj (h .mode)
  have hschema := Content.schema.inj (h .schema)
  have hconnect := Content.span.inj (h .connectTimeout)
  have hrequest := Content.span.inj (h .requestTimeout)
  simp_all

end PartialSettings

/-- What a value puts into the settings as that of an option. -/
def Tree.content (v : Tree) : SettingsOption → Except SettingsError Content
  | .url => v.asUrl.map fun u ↦ .url (some u)
  | .host => v.asText.map fun s ↦ .text (Text.trim s)
  | .application | .instanceName | .role | .description | .authorization =>
    v.asText.map fun s ↦ .optional (Text.nonBlank? s)
  | .username | .password => v.asText.map fun s ↦ .optional (some s)
  | .deflate | .skipUnchanged => v.asSwitch.map .switch
  | .rateUnit | .durationUnit => v.asUnit.map .unit
  | .mode => v.asMode.map .mode
  | .schema => v.asSchema.map .schema
  | .connectTimeout | .requestTimeout => v.asTimeout.map .span

namespace PartialSettings

/-- Something is kept for an option, and all else is as in other settings. -/
def Puts (p : PartialSettings) (o : SettingsOption) (a : Content) (q : PartialSettings) : Prop :=
  ∀ o', q.field o' = if o' = o then a else p.field o'

/-- What setting an option comes to. -/
def Sets (p : PartialSettings) (o : SettingsOption) :
    Except SettingsError Content → Except SettingsError PartialSettings → Prop
  | .error cause, result => result = .error cause
  | .ok a, result => ∃ q, result = .ok q ∧ p.Puts o a q

/-- An entry sets an option if its value, once it is understood, puts content there. -/
theorem sets_map {p : PartialSettings} {o : SettingsOption} {α : Type}
    {value : Except SettingsError α} {put : α → PartialSettings} {content : α → Content}
    (h : ∀ a, p.Puts o (content a) (put a)) :
    p.Sets o (value.map content) (do return put (← value)) := by
  cases value with
  | error cause => rfl
  | ok a => exact ⟨put a, rfl, h a⟩

/-- **Setting an option changes what is kept for it and nothing else**, or fails for what the value
is. -/
theorem sets_set (p : PartialSettings) (v : Tree) (o : SettingsOption) :
    p.Sets o (v.content o) (p.set v o) := by
  cases o <;> refine sets_map fun a o' ↦ ?_ <;>
    -- not by `rfl`, which would go into the texts
    cases o' <;>
    simp only [field, Settings.setHost, Settings.setApplication, Settings.setInstance,
      Settings.setRole, Settings.setDescription, Settings.setAuthorization, reduceCtorEq, if_true,
      if_false]

end PartialSettings

/-! ### Entries -/

namespace Settings

/-- The option that an entry is about. -/
def option? (e : Tree × Tree) : Option SettingsOption :=
  match e.1 with
  | .text key => SettingsOption.ofKey? key
  | _ => none

/-- What is wrong with an entry: its key is no text or names no option, or its value is none of the
option. -/
def flaw? (e : Tree × Tree) : Option SettingsError :=
  match e.1 with
  | .text key =>
    match SettingsOption.ofKey? key with
    | none => some (.inOption key (.unknownKey key))
    | some o =>
      match e.2.content o with
      | .error cause => some (.inOption key cause)
      | .ok _ => none
  | _ => some .keyNotText

/-- The entries about an option. -/
def entriesOf (o : SettingsOption) (entries : List (Tree × Tree)) : List (Tree × Tree) :=
  entries.filter fun e ↦ option? e = some o

/-- The value in the last entry about an option. -/
def lastValue? (entries : List (Tree × Tree)) (o : SettingsOption) : Option Tree :=
  (entriesOf o entries).getLast?.map (·.2)

/-- An entry more has the last word on its option. -/
theorem lastValue?_concat (entries : List (Tree × Tree)) (e : Tree × Tree) (o : SettingsOption) :
    lastValue? (entries ++ [e]) o =
      if option? e = some o then some e.2 else lastValue? entries o := by
  by_cases h : option? e = some o
  · simp [lastValue?, entriesOf, h]
  · simp [lastValue?, entriesOf, h]

end Settings

namespace PartialSettings

open Settings

/-- **An entry is wrong, whatever was read before it, or puts its content where it belongs.** -/
theorem entry_cases (p : PartialSettings) (e : Tree × Tree) :
    (∃ cause, flaw? e = some cause ∧ p.entry e = .error cause) ∨
      flaw? e = none ∧ ∃ o a q, option? e = some o ∧ e.2.content o = .ok a ∧ p.entry e = .ok q ∧
        p.Puts o a q := by
  obtain ⟨key, v⟩ := e
  cases key with
  | text key =>
    simp only [flaw?, entry, option?]
    rcases SettingsOption.ofKey? key with - | o
    · exact .inl ⟨_, rfl, rfl⟩
    · have hset := p.sets_set v o
      dsimp only
      rcases hv : v.content o with cause | a <;> rw [hv] at hset
      · rw [show p.set v o = .error cause from hset]
        exact .inl ⟨_, rfl, rfl⟩
      · obtain ⟨q, hq, hputs⟩ := hset
        exact .inr ⟨rfl, o, a, q, rfl, hv, by rw [hq]; rfl, hputs⟩
  | _ => exact .inl ⟨_, rfl, rfl⟩

/-- What is kept for an option after some entries were read: the content of its last value, or what
is kept from the start. -/
def kept (entries : List (Tree × Tree)) (o : SettingsOption) : Except SettingsError Content :=
  match lastValue? entries o with
  | none => .ok (({} : PartialSettings).field o)
  | some v => v.content o

/-- **The first wrong entry is the error.** -/
theorem foldlM_entry_of_flaw {entries : List (Tree × Tree)} {cause : SettingsError}
    (h : entries.findSome? flaw? = some cause) (p : PartialSettings) :
    entries.foldlM entry p = .error cause := by
  induction entries generalizing p with
  | nil => cases h
  | cons e entries ih =>
    rw [List.foldlM_cons]
    obtain ⟨cause', hflaw, hentry⟩ | ⟨hflaw, o, a, q, -, -, hentry, -⟩ := p.entry_cases e
    · rw [List.findSome?_cons_of_isSome (by rw [hflaw]; rfl), hflaw] at h
      obtain rfl := Option.some.inj h
      rw [hentry]
      rfl
    · rw [List.findSome?_cons_of_isNone (by rw [hflaw]; rfl)] at h
      rw [hentry]
      exact ih h q

/-- **Without a wrong entry, the last ones count.** -/
theorem foldlM_entry {entries : List (Tree × Tree)} (h : ∀ e ∈ entries, flaw? e = none) :
    ∃ q, entries.foldlM entry ({} : PartialSettings) = .ok q ∧
      ∀ o, kept entries o = .ok (q.field o) := by
  induction entries using List.reverseRecOn with
  | nil => exact ⟨_, rfl, fun o ↦ rfl⟩
  | append_singleton entries e ih =>
    obtain ⟨p, hp, hkept⟩ := ih fun e' he' ↦ h e' (List.mem_append_left _ he')
    have he := h e (List.mem_append_right _ List.mem_cons_self)
    obtain ⟨cause, hflaw, -⟩ | ⟨-, o, a, q, ho, hcontent, hentry, hputs⟩ := p.entry_cases e
    · cases he.symm.trans hflaw
    · refine ⟨q, ?_, fun o' ↦ ?_⟩
      · rw [List.foldlM_append, hp]
        show [e].foldlM entry p = .ok q
        rw [List.foldlM_cons, hentry]
        rfl
      · rw [kept, lastValue?_concat, ho, hputs o']
        by_cases hoo : o' = o
        · rw [if_pos hoo, hoo, if_pos rfl]
          exact hcontent
        · rw [if_neg hoo, if_neg fun h ↦ hoo (Option.some.inj h).symm]
          exact hkept o'

/-- Where settings get their authorization from when all entries were read. -/
theorem finish_eq_ok {p : PartialSettings} {s : Settings} (h : p.finish = .ok s) :
    p.username = none ∧ p.password = none ∧ s.authorization = p.settings.authorization ∨
      ∃ username, p.username = some username ∧ p.settings.authorization = none ∧
        s.authorization = some (basicAuthorization username (p.password.getD "")) := by
  rcases huser : p.username with - | username
  · rcases hpassword : p.password with - | password <;>
      simp only [finish, huser, hpassword] at h
    · obtain rfl := Except.ok.inj h
      exact .inl ⟨rfl, rfl, rfl⟩
    · cases h
  · simp only [finish, huser] at h
    by_cases hauth : p.settings.authorization.isSome = true
    · rw [if_pos hauth] at h
      cases h
    · rw [if_neg hauth] at h
      obtain rfl := Except.ok.inj h
      exact .inr ⟨username, rfl, Option.not_isSome_iff_eq_none.1 hauth, rfl⟩

/-- So settings read from two maps are the same if the last values of all options are. -/
theorem foldlM_entry_congr {entries entries' : List (Tree × Tree)}
    (h : ∀ e ∈ entries, flaw? e = none) (h' : ∀ e ∈ entries', flaw? e = none)
    (hlast : ∀ o, lastValue? entries' o = lastValue? entries o) :
    entries'.foldlM entry ({} : PartialSettings) = entries.foldlM entry {} := by
  obtain ⟨q, hq, hkept⟩ := foldlM_entry h
  obtain ⟨q', hq', hkept'⟩ := foldlM_entry h'
  rw [hq, hq', field_injective fun o ↦ Except.ok.inj ((hkept' o).symm.trans ?_)]
  rw [← hkept o, kept, kept, hlast]

end PartialSettings

/-! ### Settings -/

namespace Settings

variable {entries : List (Tree × Tree)}

/-- The text in the last entry about an option. -/
def lastText? (entries : List (Tree × Tree)) (o : SettingsOption) : Option String :=
  (lastValue? entries o).bind fun v ↦ v.asText.toOption

/-- The authorization in the last entry about it, unless that is blank. -/
def authorization? (entries : List (Tree × Tree)) : Option String :=
  (lastText? entries .authorization).bind Text.nonBlank?

/-- What is kept for an option of texts. -/
theorem kept_eq {o : SettingsOption} {put : String → Option String}
    (hcontent : ∀ v : Tree, v.content o = v.asText.map fun s ↦ .optional (put s))
    (hstart : ({} : PartialSettings).field o = .optional none) {kept : Option String}
    (h : PartialSettings.kept entries o = .ok (.optional kept)) :
    kept = (lastText? entries o).bind put := by
  rw [lastText?]
  rcases hlast : lastValue? entries o with - | v <;> simp only [PartialSettings.kept, hlast] at h
  · rw [hstart] at h
    exact (Content.optional.inj (Except.ok.inj h)).symm
  · rw [hcontent] at h
    rcases hv : v.asText with cause | s <;> rw [hv] at h
    · cases h
    · rw [Option.bind_some, hv]
      exact (Content.optional.inj (Except.ok.inj h)).symm

/-- The settings that come of what was kept when all entries were read. -/
def conclude (p : PartialSettings) : Except SettingsError Settings := do
  let s ← p.finish
  s.check
  return s

theorem ofTree_map (entries : List (Tree × Tree)) :
    ofTree (.map entries) = (entries.foldlM PartialSettings.entry {}).bind conclude :=
  rfl

/-- What cannot be finished cannot be concluded. -/
theorem conclude_of_error {p : PartialSettings} {cause : SettingsError}
    (h : p.finish = .error cause) : conclude p = .error cause := by
  rw [conclude, h]
  rfl

/-- What is concluded was finished, and passed its check. -/
theorem conclude_eq_ok {p : PartialSettings} {s : Settings} (h : conclude p = .ok s) :
    p.finish = .ok s ∧ s.check = .ok () := by
  cases hs : p.finish with
  | error cause => cases (conclude_of_error hs).symm.trans h
  | ok s' =>
    rw [conclude, hs] at h
    cases hcheck : s'.check with
    | error cause =>
      simp only [bind, Except.bind, hcheck] at h
      cases h
    | ok =>
      simp only [bind, Except.bind, hcheck] at h
      obtain rfl := Except.ok.inj h
      exact ⟨rfl, hcheck⟩

/-- **The first flawed entry decides** what is wrong with settings. -/
theorem ofTree_of_flaw {cause : SettingsError} (h : entries.findSome? flaw? = some cause) :
    ofTree (.map entries) = .error cause := by
  rw [ofTree_map, PartialSettings.foldlM_entry_of_flaw h]
  rfl

/-- Without a wrong entry, settings come of the last user name, password and authorization. -/
theorem ofTree_of_fine (h : ∀ e ∈ entries, flaw? e = none) :
    ∃ q : PartialSettings, ofTree (.map entries) = conclude q ∧
      q.settings.authorization = authorization? entries ∧
      q.username = lastText? entries .username ∧ q.password = lastText? entries .password := by
  obtain ⟨q, hq, hkept⟩ := PartialSettings.foldlM_entry h
  refine ⟨q, ?_, kept_eq (fun _ ↦ rfl) rfl (hkept .authorization), ?_, ?_⟩
  · rw [ofTree_map, hq]
    rfl
  · rw [kept_eq (fun _ ↦ rfl) rfl (hkept .username), Option.bind_fun_some]
  · rw [kept_eq (fun _ ↦ rfl) rfl (hkept .password), Option.bind_fun_some]

/-- Settings come of no map with a wrong entry. -/
theorem fine_of_ofTree {s : Settings} (hs : ofTree (.map entries) = .ok s) :
    ∀ e ∈ entries, flaw? e = none := by
  rcases hflaw : entries.findSome? flaw? with - | cause
  · exact List.findSome?_eq_none_iff.1 hflaw
  · rw [ofTree_of_flaw hflaw] at hs
    cases hs

/-- Which entries of a map decide what is read from it, and what can be read. -/
structure LastWins (entries : List (Tree × Tree)) : Prop where
  /-- An entry is about the option that has its key among its names, case and hyphens aside. -/
  spelling : ∀ key v, (Tree.text key, v) ∈ entries → ∀ o, option? (.text key, v) = some o ↔
    ∃ words, (words, o) ∈ SettingsOption.names ∧ SettingsOption.normalKey key ∈ words
  /-- The first wrong entry is the error, whatever comes behind it. -/
  first_flaw : ∀ cause, entries.findSome? flaw? = some cause →
    ofTree (.map entries) = .error cause
  /-- Without one, the last values of the options decide. -/
  of_last : (∀ e ∈ entries, flaw? e = none) → ∀ entries', (∀ e ∈ entries', flaw? e = none) →
    (∀ o, lastValue? entries' o = lastValue? entries o) →
    ofTree (.map entries') = ofTree (.map entries)
  /-- So entries may come in any order that is the same among those about one option. -/
  of_perm : (∀ e ∈ entries, flaw? e = none) → ∀ entries', entries'.Perm entries →
    (∀ o, entriesOf o entries' = entriesOf o entries) →
    ofTree (.map entries') = ofTree (.map entries)
  /-- A user name and another authorization exclude each other. -/
  both : (∀ e ∈ entries, flaw? e = none) → lastText? entries .username ≠ none →
    authorization? entries ≠ none → ofTree (.map entries) = .error .twoAuthorizations
  /-- There is no password without a user name. -/
  alone : (∀ e ∈ entries, flaw? e = none) → lastText? entries .username = none →
    lastText? entries .password ≠ none → ofTree (.map entries) = .error .passwordAlone
  /-- Settings that result pass the check, and their authorization, if there is one, is either the
  one given or that of the user name. -/
  result : ∀ s, ofTree (.map entries) = .ok s → s.check = .ok () ∧
    (lastText? entries .username = none ∧ lastText? entries .password = none ∧
        s.authorization = authorization? entries ∨
      ∃ username, lastText? entries .username = some username ∧ authorization? entries = none ∧
        s.authorization =
          some (basicAuthorization username ((lastText? entries .password).getD "")))

/-- **The order of entries for different options makes no difference, and the last of those for one
option wins.** -/
theorem lastWins (entries : List (Tree × Tree)) : LastWins entries := by
  have hcongr : (∀ e ∈ entries, flaw? e = none) → ∀ entries', (∀ e ∈ entries', flaw? e = none) →
      (∀ o, lastValue? entries' o = lastValue? entries o) →
      ofTree (.map entries') = ofTree (.map entries) := by
    intro h entries' h' hlast
    rw [ofTree_map, ofTree_map, PartialSettings.foldlM_entry_congr h h' hlast]
  refine ⟨fun key v _ o ↦ SettingsOption.ofKey?_eq_some_iff, fun _ ↦ ofTree_of_flaw, hcongr,
    ?_, ?_, ?_, ?_⟩
  · intro h entries' hperm horder
    refine hcongr h entries' (fun e he ↦ h e (hperm.mem_iff.1 he)) fun o ↦ ?_
    rw [lastValue?, lastValue?, horder]
  · intro h huser hauth
    obtain ⟨q, hq, hauthorization, husername, -⟩ := ofTree_of_fine h
    obtain ⟨username, huser⟩ := Option.ne_none_iff_exists'.1 huser
    have hfinish : q.finish = .error .twoAuthorizations := by
      rw [PartialSettings.finish, husername, huser]
      exact if_pos (hauthorization ▸ Option.isSome_iff_ne_none.2 hauth)
    exact hq.trans (conclude_of_error hfinish)
  · intro h huser hpass
    obtain ⟨q, hq, -, husername, hpassword⟩ := ofTree_of_fine h
    obtain ⟨password, hpass⟩ := Option.ne_none_iff_exists'.1 hpass
    have hfinish : q.finish = .error .passwordAlone := by
      rw [PartialSettings.finish, husername, huser, hpassword, hpass]
    exact hq.trans (conclude_of_error hfinish)
  · intro s hs
    obtain ⟨q, hq, hauthorization, husername, hpassword⟩ := ofTree_of_fine (fine_of_ofTree hs)
    obtain ⟨hfinish, hcheck⟩ := conclude_eq_ok (hq.symm.trans hs)
    rw [← hauthorization, ← husername, ← hpassword]
    exact ⟨hcheck, PartialSettings.finish_eq_ok hfinish⟩

/-- A user name may come behind the password, but not beside another authorization, and a second
value does not make up for a wrong one. -/
theorem lastWins_small :
    let url := (Tree.text "url", Tree.text "http://[::]")
    let host := (Tree.text "HOST", Tree.text "a")
    let user := (Tree.text "UserName", Tree.text "b")
    let password := (Tree.text "password", Tree.text "c")
    let token := (Tree.text "authorization", Tree.text "d")
    (∃ s, ofTree (.map [url, password, host, user]) = .ok s ∧ s.check = .ok () ∧
        s.authorization = some (basicAuthorization "b" "c")) ∧
      ofTree (.map [user, host, password, url]) = ofTree (.map [url, password, host, user]) ∧
      ofTree (.map [user, token]) = .error .twoAuthorizations ∧
      ofTree (.map [host, password]) = .error .passwordAlone ∧
      ofTree (.map [(.text "deflate", .text "oui"), (.text "deflate", .bool true)]) =
        .error (.inOption "deflate" (.invalidSwitch "oui")) := by
  intro url host user password token
  have hfine : ∀ e ∈ [url, password, host, user], flaw? e = none := by decide +kernel
  have huser : lastText? [url, password, host, user] .username = some "b" := by decide +kernel
  have hpassword : lastText? [url, password, host, user] .password = some "c" := by decide +kernel
  refine ⟨?_, ?_, ?_, ?_, ?_⟩
  · have hread : (ofTree (.map [url, password, host, user])).isOk = true := by decide +kernel
    rcases hs : ofTree (.map [url, password, host, user]) with cause | s
    · rw [hs] at hread
      cases hread
    · obtain ⟨hcheck, ⟨hnone, -⟩ | ⟨username, huser', -, hauthorization⟩⟩ :=
        (lastWins _).result s hs
      · cases huser.symm.trans hnone
      · obtain rfl := Option.some.inj (huser.symm.trans huser')
        rw [hpassword] at hauthorization
        exact ⟨s, rfl, hcheck, hauthorization⟩
  · refine (lastWins _).of_perm hfine _ (List.reverse_perm [url, password, host, user]) fun o ↦ ?_
    cases o <;> decide +kernel
  · exact (lastWins _).both (by decide +kernel) (by decide +kernel) (by decide +kernel)
  · exact (lastWins _).alone (by decide +kernel) (by decide +kernel) (by decide +kernel)
  · exact (lastWins _).first_flaw _ (by decide +kernel)

end Settings

end Telemetry
