import Mathlib
import Telemetry.Proofs.Base64
import Telemetry.Proofs.Settings
import Telemetry.Transport

/-!
# User names and passwords arrive as they were given

A user name and a password are kept as one value of the authorization header. What is behind that
value is the user name, a colon and the password, byte for byte (`Settings.Carries`), so two values
are the same only if these texts are. A password may hold colons; a user name without one ends at
the first of them (`Settings.joined_inj`).

**Two ways in.** Credentials are set, or they stand in the map that settings are read from. A map
with a user name is read like the map without user name and password, and both are set in what
results (`Settings.ofTree_eq_ok_iff`). What they are makes no difference to whether the map can be
read; only another authorization is in the way.

**One way out.** The value consists of printable characters and spaces, and every such text may
stand in a header (`Transport.isHeaderValue_of_plain`).
-/

namespace Telemetry

namespace Transport

/-- Texts of printable characters and spaces may be values of headers. -/
theorem isHeaderValue_of_plain {s : String} (h : ∀ c ∈ s.toList, ' ' ≤ c ∧ c ≤ '~') :
    isHeaderValue s = true := by
  have hbytes : s.toByteArray.data.toList = s.toList.flatMap String.utf8EncodeChar := by
    conv_lhs => rw [← s.ofList_toList]
    rw [String.toByteArray_ofList, List.utf8Encode, List.toList_data_toByteArray]
  rw [isHeaderValue, hbytes, List.all_eq_true]
  intro b hb
  obtain ⟨c, hc, hb⟩ := List.mem_flatMap.1 hb
  obtain ⟨hspace, htilde⟩ : 32 ≤ c.val.toNat ∧ c.val.toNat ≤ 126 := h c hc
  -- such a character is a single byte
  rw [String.utf8EncodeChar_eq_singleton (Char.utf8Size_eq_one_iff.2
    (UInt32.le_iff_toNat_le.2 (htilde.trans (by decide)))), List.mem_singleton] at hb
  have hbyte : b.toNat = c.val.toNat := by
    rw [hb, UInt32.toNat_toUInt8, Nat.mod_eq_of_lt (by omega)]
  have hlow : 32 ≤ b := UInt8.le_iff_toNat_le.2 (hspace.trans_eq hbyte.symm)
  have hdelete : b ≠ 127 := by
    rintro rfl
    exact absurd (hbyte.trans_le htilde) (by decide)
  simp [isHeaderByte, hlow, hdelete]

/-- With a value that may stand in a header, all that a transport needs is a URL. -/
theorem create_of_isHeaderValue {s : Settings} {value : String}
    (hs : s.authorization = some value) (hvalue : isHeaderValue value = true) :
    create s = s.url.elim (.error .noUrl) fun url ↦ .ok ⟨url, some value, s.deflate⟩ := by
  rw [create]
  cases s.url with
  | none => rfl
  | some url => simp only [hs, Option.all_some, hvalue, if_true, Option.elim_some]

end Transport

namespace Settings

/-! ### The value of the header -/

/-- A value of the authorization header that has a user name and a password behind it. -/
structure Carries (value username password : String) : Prop where
  /-- The name of the scheme is followed by the printable form of the bytes of both, with a colon
  between them. -/
  readable : ∃ token, value = "Basic " ++ token ∧
    Base64.decode? token = some (username ++ ":" ++ password).toUTF8.data.toList
  plain : ∀ c ∈ value.toList, ' ' ≤ c ∧ c ≤ '~'

/-- The value of the header carries the credentials that it is made of. -/
theorem carries_basicAuthorization (username password : String) :
    Carries (basicAuthorization username password) username password := by
  refine ⟨⟨_, rfl, Base64.decode?_eq_some_iff.2 rfl⟩, fun c hc ↦ ?_⟩
  have hscheme : ∀ c ∈ "Basic ".toList, ' ' ≤ c ∧ c ≤ '~' := by simp
  rw [basicAuthorization, String.toList_append, List.mem_append] at hc
  rcases hc with hc | hc
  · exact hscheme c hc
  · obtain ⟨hlow, hhigh⟩ := Base64.visible_of_mem_encode hc
    exact ⟨le_trans (by decide) hlow, hhigh⟩

/-- **What is carried is the joined text.** -/
theorem Carries.joined_eq {value u u' p p' : String} (h : Carries value u p)
    (h' : Carries value u' p') : u ++ ":" ++ p = u' ++ ":" ++ p' := by
  obtain ⟨token, hvalue, hread⟩ := h.readable
  obtain ⟨token', hvalue', hread'⟩ := h'.readable
  obtain rfl := (String.append_right_inj _).1 (hvalue.symm.trans hvalue')
  have hbytes := Option.some.inj (hread.symm.trans hread')
  exact String.toByteArray_inj.1 (ByteArray.ext (Array.toList_inj.1 hbytes))

/-- **Two values are the same just if the joined credentials are.** -/
theorem basicAuthorization_inj {u u' p p' : String} :
    basicAuthorization u p = basicAuthorization u' p' ↔ u ++ ":" ++ p = u' ++ ":" ++ p' := by
  constructor
  · intro h
    exact (carries_basicAuthorization u p).joined_eq (h ▸ carries_basicAuthorization u' p')
  · intro h
    rw [basicAuthorization, basicAuthorization, h]

/-- **A user name without a colon ends at the first one.** -/
theorem joined_inj {u u' p p' : String} (hu : ':' ∉ u.toList) (hu' : ':' ∉ u'.toList) :
    u ++ ":" ++ p = u' ++ ":" ++ p' ↔ u = u' ∧ p = p' := by
  constructor
  · intro h
    have hchars : u.toList ++ ':' :: p.toList = u'.toList ++ ':' :: p'.toList := by
      simpa using congrArg String.toList h
    have hcut {l r : List Char} (hl : ':' ∉ l) : (l ++ ':' :: r).takeWhile (· ≠ ':') = l := by
      rw [List.takeWhile_append_of_pos (by simpa using fun c hc ↦ ne_of_mem_of_not_mem hc hl),
        List.takeWhile_cons_of_neg (by decide), List.append_nil]
    have huser : u.toList = u'.toList := by
      rw [← hcut (r := p.toList) hu, hchars, hcut hu']
    rw [huser] at hchars
    exact ⟨String.toList_inj.1 huser, String.toList_inj.1 (by simpa using hchars)⟩
  · rintro ⟨rfl, rfl⟩
    rfl

/-! ### Credentials in a map -/

variable {entries : List (Tree × Tree)}

/-- Whether an entry is about the user name or the password. -/
def isCredential (e : Tree × Tree) : Bool :=
  option? e = some .username ∨ option? e = some .password

/-- The entries that are about something else. -/
def withoutCredentials (entries : List (Tree × Tree)) : List (Tree × Tree) :=
  entries.filter fun e ↦ !isCredential e

/-- Leaving credentials out leaves the last values of all other options. -/
theorem lastValue?_withoutCredentials (o : SettingsOption) :
    lastValue? (withoutCredentials entries) o =
      if o = .username ∨ o = .password then none else lastValue? entries o := by
  have hentries : entriesOf o (withoutCredentials entries) =
      entries.filter fun e ↦ decide (option? e = some o) && !isCredential e :=
    List.filter_filter
  rw [lastValue?, hentries]
  split
  · next ho =>
    rw [List.filter_eq_nil_iff.2 fun e _ ↦ ?_]
    · rfl
    · rcases ho with rfl | rfl <;> simp +contextual [isCredential]
  · next ho =>
    rw [lastValue?, entriesOf]
    congr 2
    refine List.filter_congr fun e _ ↦ ?_
    by_cases he : option? e = some o
    · simp [isCredential, he, not_or.1 ho]
    · simp [he]

/-- Without credentials settings are finished as they are. -/
theorem finish_of_no_credentials {p : PartialSettings} (huser : p.username = none)
    (hpassword : p.password = none) : p.finish = .ok p.settings := by
  rw [PartialSettings.finish, huser, hpassword]

/-- With a user name the credentials are set, unless there is other authorization. -/
theorem finish_eq_ok_iff {p : PartialSettings} {username : String}
    (huser : p.username = some username) {s : Settings} :
    p.finish = .ok s ↔ p.settings.authorization = none ∧
      s = p.settings.setBasicAuthorization username (p.password.getD "") := by
  rw [PartialSettings.finish, huser]
  cases hauth : p.settings.authorization with
  | some value => simp
  | none => simp [eq_comm]

/-- Settings are concluded if they can be finished and pass their check. -/
theorem conclude_eq_ok_iff {p : PartialSettings} {s : Settings} :
    conclude p = .ok s ↔ p.finish = .ok s ∧ s.check = .ok () := by
  refine ⟨conclude_eq_ok, fun ⟨hfinish, hcheck⟩ ↦ ?_⟩
  rw [conclude, hfinish]
  show s.check.bind (fun _ ↦ .ok s) = .ok s
  rw [hcheck]
  rfl

/-- **Reading a map puts user name and password on top of all else.** Without a wrong entry, a map
with a user name leads where the other entries lead, and both are kept beside. -/
theorem ofTree_withoutCredentials (h : ∀ e ∈ entries, flaw? e = none) :
    ∃ p : PartialSettings, p.username = none ∧ p.password = none ∧
      ofTree (.map (withoutCredentials entries)) = conclude p ∧
      ofTree (.map entries) = conclude
        { p with
          username := lastText? entries .username
          password := lastText? entries .password } := by
  obtain ⟨q, hq, hkept⟩ := PartialSettings.foldlM_entry h
  have hrest : ∀ e ∈ withoutCredentials entries, flaw? e = none := fun e he ↦
    h e (List.mem_of_mem_filter he)
  obtain ⟨p, hp, hkept'⟩ := PartialSettings.foldlM_entry hrest
  have hsame {o : SettingsOption} (ho : ¬(o = .username ∨ o = .password)) :
      q.field o = p.field o := by
    refine Except.ok.inj ((hkept o).symm.trans (.trans ?_ (hkept' o)))
    rw [PartialSettings.kept, PartialSettings.kept, lastValue?_withoutCredentials, if_neg ho]
  have hnone {o : SettingsOption} (ho : o = .username ∨ o = .password) :
      lastText? (withoutCredentials entries) o = none := by
    rw [lastText?, lastValue?_withoutCredentials, if_pos ho]
    rfl
  have huser := kept_eq (fun _ ↦ rfl) rfl (hkept .username)
  have hpassword := kept_eq (fun _ ↦ rfl) rfl (hkept .password)
  have huser' := kept_eq (fun _ ↦ rfl) rfl (hkept' .username)
  have hpassword' := kept_eq (fun _ ↦ rfl) rfl (hkept' .password)
  rw [Option.bind_fun_some] at huser hpassword
  rw [hnone (.inl rfl)] at huser'
  rw [hnone (.inr rfl)] at hpassword'
  refine ⟨p, huser', hpassword', ?_, ?_⟩
  · rw [ofTree_map, hp]
    rfl
  · rw [ofTree_map, hq, ← huser, ← hpassword]
    refine congrArg conclude (PartialSettings.field_injective fun o ↦ ?_)
    cases o with
    | username => rfl
    | password => rfl
    | _ => exact hsame (by decide)

/-- **A map with a user name can be read if and only if it can without the credentials and gives no
other authorization**, and the credentials are then set in what is read. -/
theorem ofTree_eq_ok_iff (h : ∀ e ∈ entries, isCredential e = true → flaw? e = none)
    {username : String} (huser : lastText? entries .username = some username) {s : Settings} :
    ofTree (.map entries) = .ok s ↔
      ∃ base, ofTree (.map (withoutCredentials entries)) = .ok base ∧ base.authorization = none ∧
        s = base.setBasicAuthorization username ((lastText? entries .password).getD "") := by
  have hfine {base : Settings} (hbase : ofTree (.map (withoutCredentials entries)) = .ok base) :
      ∀ e ∈ entries, flaw? e = none := by
    intro e he
    by_cases hcred : isCredential e = true
    · exact h e he hcred
    · exact fine_of_ofTree hbase e (List.mem_filter.2 ⟨he, by simpa using hcred⟩)
  constructor
  · intro hs
    obtain ⟨p, hnoUser, hnoPassword, hrest, hall⟩ := ofTree_withoutCredentials (fine_of_ofTree hs)
    obtain ⟨hfinish, hcheck⟩ := conclude_eq_ok_iff.1 (hall.symm.trans hs)
    obtain ⟨hauth, rfl⟩ := (finish_eq_ok_iff huser).1 hfinish
    have hbase := conclude_eq_ok_iff.2 ⟨finish_of_no_credentials hnoUser hnoPassword, hcheck⟩
    exact ⟨p.settings, hrest.trans hbase, hauth, rfl⟩
  · rintro ⟨base, hbase, hauth, rfl⟩
    obtain ⟨p, hnoUser, hnoPassword, hrest, hall⟩ := ofTree_withoutCredentials (hfine hbase)
    obtain ⟨hfinish, hcheck⟩ := conclude_eq_ok_iff.1 (hrest.symm.trans hbase)
    obtain rfl := Except.ok.inj ((finish_of_no_credentials hnoUser hnoPassword).symm.trans hfinish)
    -- the check does not look at the authorization
    exact hall.trans (conclude_eq_ok_iff.2 ⟨(finish_eq_ok_iff huser).2 ⟨hauth, rfl⟩, hcheck⟩)

/-! ### From the credentials to the header -/

/-- What becomes of a user name and a password. -/
structure CredentialsArrive (username password : String) : Prop where
  /-- However they are set, what is kept is one value. -/
  of_set : ∀ s : Settings, (s.setBasicAuthorization username password).authorization =
    some (basicAuthorization username password)
  /-- A map with them, in whatever entries, is read like one without them in which they are then
  set. -/
  of_read : ∀ entries : List (Tree × Tree),
    (∀ e ∈ entries, isCredential e = true → flaw? e = none) →
    lastText? entries .username = some username →
    (lastText? entries .password).getD "" = password → ∀ s, ofTree (.map entries) = .ok s ↔
      ∃ base, ofTree (.map (withoutCredentials entries)) = .ok base ∧ base.authorization = none ∧
        s = base.setBasicAuthorization username password
  /-- They are what is behind the value. -/
  carried : Carries (basicAuthorization username password) username password
  /-- Others have the same value only if the joined texts are the same. -/
  joined : ∀ u p : String, basicAuthorization u p = basicAuthorization username password ↔
    u ++ ":" ++ p = username ++ ":" ++ password
  /-- So no others have it if there is no colon in the user names. -/
  apart : ':' ∉ username.toList → ∀ u p : String, ':' ∉ u.toList →
    (u, p) ≠ (username, password) →
      basicAuthorization u p ≠ basicAuthorization username password
  /-- A transport is never refused for the value, and sends it. -/
  sent : ∀ s : Settings, s.authorization = some (basicAuthorization username password) →
    Transport.create s ≠ .error .invalidAuthorization ∧ ∀ url, s.url = some url →
      ∃ t, Transport.create s = .ok t ∧ ∀ content,
        (t.request content).authorization = some (basicAuthorization username password)

/-- **User names and passwords arrive as they were given**, whatever is in them. -/
theorem credentialsArrive (username password : String) : CredentialsArrive username password := by
  refine ⟨fun s ↦ rfl, ?_, carries_basicAuthorization username password,
    fun u p ↦ basicAuthorization_inj, ?_, ?_⟩
  · rintro entries h huser rfl s
    exact ofTree_eq_ok_iff h huser
  · intro husername u p hu hne heq
    obtain ⟨rfl, rfl⟩ := (joined_inj hu husername).1 (basicAuthorization_inj.1 heq)
    exact hne rfl
  · intro s hs
    have hplain := (carries_basicAuthorization username password).plain
    have hcreate := Transport.create_of_isHeaderValue hs (Transport.isHeaderValue_of_plain hplain)
    constructor
    · rw [hcreate]
      cases s.url <;> nofun
    · intro url hurl
      rw [hurl, Option.elim_some] at hcreate
      exact ⟨_, hcreate, fun content ↦ rfl⟩

/-- A line break in the user name and a colon in the password are not in the way. -/
theorem credentialsArrive_small :
    let url := (Tree.text "url", Tree.text "http://[::]")
    let host := (Tree.text "host", Tree.text "a")
    let user := (Tree.text "username", Tree.text "b\n")
    let password := (Tree.text "password", Tree.text ":c")
    ∃ s, ofTree (.map [url, password, host, user]) = .ok s ∧
      s.authorization = some "Basic Ygo6OmM=" ∧
      Base64.decode? "Ygo6OmM=" = some "b\n::c".toUTF8.data.toList := by
  intro url host user password
  have hread : (ofTree (.map [url, host])).isOk = true := by decide +kernel
  rcases hbase : ofTree (.map [url, host]) with cause | base
  · rw [hbase] at hread
    cases hread
  · have hauth : base.authorization = none := by
      have hnone : (ofTree (.map [url, host])).toOption.all fun s ↦ s.authorization = none := by
        decide +kernel
      rw [hbase] at hnone
      exact of_decide_eq_true hnone
    have hrest : withoutCredentials [url, password, host, user] = [url, host] := by decide +kernel
    have hs := ((credentialsArrive "b\n" ":c").of_read [url, password, host, user]
      (by decide +kernel) (by decide +kernel) (by decide +kernel) _).2
      ⟨base, hrest ▸ hbase, hauth, rfl⟩
    exact ⟨_, hs, congrArg some (by decide +kernel), by decide +kernel⟩

end Settings

end Telemetry
