import StationWatch.Proofs.Escapes
import StationWatch.Service

/-!
# Credentials behind a token

The header with the credentials is read from its other end.  Bytes are put into characters three at
a time, and what is left of them at the end makes a group with fillers; so bytes are read back group
by group, with one case for each number of bytes in a group.  A text is read back from its bytes,
and cut at its first colon it gives the user name and the password, whatever the password holds.

## Main definitions

* `Base64.InAlphabet` — the characters that stand for six bits.
* `tokenOf?`, `cutAtColon?`, `credentials?` — a header read from its other end.

## Main results

* `Base64.decode_encode` — bytes are read back.
* `Base64.encode_eq_append` — where the fillers stand.
* `credentials?_headerOf` — the credentials are read back from their header.
* `basicAuth_carries_credentials` — all of it, and what a service sends.

## References

`SPEC_FULL.md`, sections 6 and 9, on the header with the credentials.
-/

namespace StationWatch

namespace Base64

/-! ### Groups -/

theorem charOf_ne_filler {n : Nat} (h : n < 64) : charOf n ≠ filler := by
  have hvalueless : valueOf? filler = none := by decide
  intro heq
  have hvalue := valueOf?_charOf h
  rw [heq, hvalueless] at hvalue
  cases hvalue

theorem decodeGroup_one (a : UInt8) :
    decodeGroup (charOf (a.toNat / 4)) (charOf (a.toNat % 4 * 16)) filler filler = some [a] := by
  have hbyte : a.toNat < 256 := a.toNat_lt
  have hbits : a.toNat / 4 * 4 + a.toNat % 4 * 16 / 16 = a.toNat := by omega
  unfold decodeGroup
  rw [valueOf?_charOf (by omega), valueOf?_charOf (by omega)]
  simp only [and_self, if_true, hbits, UInt8.ofNat_toNat]

theorem decodeGroup_two (a b : UInt8) :
    decodeGroup (charOf (a.toNat / 4)) (charOf (a.toNat % 4 * 16 + b.toNat / 16))
      (charOf (b.toNat % 16 * 4)) filler = some [a, b] := by
  have hbyteA : a.toNat < 256 := a.toNat_lt
  have hbyteB : b.toNat < 256 := b.toNat_lt
  have hbitsA : a.toNat / 4 * 4 + (a.toNat % 4 * 16 + b.toNat / 16) / 16 = a.toNat := by omega
  have hbitsB : (a.toNat % 4 * 16 + b.toNat / 16) % 16 * 16 + b.toNat % 16 * 4 / 4 = b.toNat := by
    omega
  have hthird : charOf (b.toNat % 16 * 4) ≠ filler := charOf_ne_filler (by omega)
  unfold decodeGroup
  rw [valueOf?_charOf (by omega), valueOf?_charOf (by omega), valueOf?_charOf (by omega)]
  simp only [hthird, false_and, if_false, if_true, hbitsA, hbitsB, UInt8.ofNat_toNat]

theorem decodeGroup_three (a b c : UInt8) :
    decodeGroup (charOf (a.toNat / 4)) (charOf (a.toNat % 4 * 16 + b.toNat / 16))
      (charOf (b.toNat % 16 * 4 + c.toNat / 64)) (charOf (c.toNat % 64)) = some [a, b, c] := by
  have hbyteA : a.toNat < 256 := a.toNat_lt
  have hbyteB : b.toNat < 256 := b.toNat_lt
  have hbyteC : c.toNat < 256 := c.toNat_lt
  have hbitsA : a.toNat / 4 * 4 + (a.toNat % 4 * 16 + b.toNat / 16) / 16 = a.toNat := by omega
  have hbitsB : (a.toNat % 4 * 16 + b.toNat / 16) % 16 * 16 +
      (b.toNat % 16 * 4 + c.toNat / 64) / 4 = b.toNat := by omega
  have hbitsC : (b.toNat % 16 * 4 + c.toNat / 64) % 4 * 64 + c.toNat % 64 = c.toNat := by omega
  have hthird : charOf (b.toNat % 16 * 4 + c.toNat / 64) ≠ filler := charOf_ne_filler (by omega)
  have hfourth : charOf (c.toNat % 64) ≠ filler := charOf_ne_filler (by omega)
  unfold decodeGroup
  rw [valueOf?_charOf (by omega), valueOf?_charOf (by omega), valueOf?_charOf (by omega),
    valueOf?_charOf (by omega)]
  simp only [hthird, hfourth, false_and, if_false, Option.map_some, hbitsA, hbitsB, hbitsC,
    UInt8.ofNat_toNat]

/-! ### Bytes -/

/-- **Bytes are read back.** -/
theorem decode_encode (bytes : List UInt8) : decode (encode bytes) = some bytes := by
  induction bytes using encode.induct with
  | case1 => rfl
  | case2 a => simp [encode, decode, decodeGroup_one]
  | case3 a b => simp [encode, decode, decodeGroup_two]
  | case4 a b c rest ih =>
    -- The last group alone may have fillers, and this one has none.
    have hfull : charOf (c.toNat % 64) ≠ filler := charOf_ne_filler (by omega)
    simp [encode, decode, decodeGroup_three, hfull, ih]

theorem length_encode (bytes : List UInt8) :
    (encode bytes).length = 4 * ((bytes.length + 2) / 3) := by
  induction bytes using encode.induct with
  | case1 => rfl
  | case2 a => simp [encode]
  | case3 a b => simp [encode]
  | case4 a b c rest ih =>
    simp only [encode, List.length_cons, ih]
    omega

/-- The characters that stand for six bits: letters, digits, and two signs. -/
def InAlphabet (c : Char) : Prop := c.isAlphanum = true ∨ c = '+' ∨ c = '/'

theorem inAlphabet_charOf {n : Nat} (h : n < 64) : InAlphabet (charOf n) := by
  have hall : ∀ m ∈ List.range 64,
      (charOf m).isAlphanum = true ∨ charOf m = '+' ∨ charOf m = '/' := by
    decide
  exact hall n (List.mem_range.2 h)

/-- Fillers stand at the end only, as many as bytes are missing from the last group. -/
theorem encode_eq_append (bytes : List UInt8) :
    ∃ body, encode bytes = body ++ List.replicate (2 - (bytes.length + 2) % 3) filler ∧
      ∀ c ∈ body, InAlphabet c := by
  induction bytes using encode.induct with
  | case1 => exact ⟨[], rfl, by simp⟩
  | case2 a =>
    have hbyte : a.toNat < 256 := a.toNat_lt
    refine ⟨[charOf (a.toNat / 4), charOf (a.toNat % 4 * 16)], by simp [encode], ?_⟩
    simp only [List.forall_mem_cons]
    exact ⟨inAlphabet_charOf (by omega), inAlphabet_charOf (by omega), by simp⟩
  | case3 a b =>
    have hbyteA : a.toNat < 256 := a.toNat_lt
    have hbyteB : b.toNat < 256 := b.toNat_lt
    refine ⟨[charOf (a.toNat / 4), charOf (a.toNat % 4 * 16 + b.toNat / 16),
      charOf (b.toNat % 16 * 4)], by simp [encode], ?_⟩
    simp only [List.forall_mem_cons]
    exact ⟨inAlphabet_charOf (by omega), inAlphabet_charOf (by omega),
      inAlphabet_charOf (by omega), by simp⟩
  | case4 a b c rest ih =>
    obtain ⟨body, hwhole, hletters⟩ := ih
    have hbyteA : a.toNat < 256 := a.toNat_lt
    have hbyteB : b.toNat < 256 := b.toNat_lt
    have hbyteC : c.toNat < 256 := c.toNat_lt
    have hfill : (a :: b :: c :: rest).length + 2 = rest.length + 2 + 3 := rfl
    refine ⟨charOf (a.toNat / 4) :: charOf (a.toNat % 4 * 16 + b.toNat / 16) ::
      charOf (b.toNat % 16 * 4 + c.toNat / 64) :: charOf (c.toNat % 64) :: body, ?_, ?_⟩
    · rw [encode, hwhole, hfill, Nat.add_mod_right]
      rfl
    · simp only [List.forall_mem_cons]
      exact ⟨inAlphabet_charOf (by omega), inAlphabet_charOf (by omega),
        inAlphabet_charOf (by omega), inAlphabet_charOf (by omega), hletters⟩

/-- What is known of the characters without the bytes. -/
theorem encode_shape (bytes : List UInt8) :
    ∃ body fillers, encode bytes = body ++ List.replicate fillers filler ∧ fillers ≤ 2 ∧
      (∀ c ∈ body, InAlphabet c) ∧ (body.length + fillers) % 4 = 0 := by
  obtain ⟨body, hwhole, hletters⟩ := encode_eq_append bytes
  have hgroups := length_encode bytes
  rw [hwhole, List.length_append, List.length_replicate] at hgroups
  refine ⟨body, 2 - (bytes.length + 2) % 3, hwhole, Nat.sub_le 2 _, hletters, ?_⟩
  rw [hgroups, Nat.mul_mod_right]

end Base64

/-! ### Headers -/

/-- The header for a user name and a password without halves. -/
def headerOf (username password : String) : String :=
  authScheme ++ authToken (username ++ ":" ++ password)

theorem basicAuth_whole (username password : String) :
    basicAuth username password = .ok (headerOf username password) := rfl

/-- The token behind the scheme of a header. -/
def tokenOf? (header : String) : Option (List Char) :=
  if authScheme.toList <+: header.toList then
    some (header.toList.drop authScheme.toList.length)
  else none

/-- What stands ahead of the first colon, and behind it. -/
def cutAtColon? (cs : List Char) : Option (String × String) :=
  match cs.dropWhile (· != ':') with
  | [] => none
  | _ :: rest => some (String.ofList (cs.takeWhile (· != ':')), String.ofList rest)

/-- The user name and the password behind a header. -/
def credentials? (header : String) : Option (String × String) :=
  (((tokenOf? header).bind Base64.decode).bind Text.ofBytes?).bind cutAtColon?

theorem tokenOf?_headerOf (username password : String) :
    tokenOf? (headerOf username password) =
      some (authToken (username ++ ":" ++ password)).toList := by
  have hwhole : (headerOf username password).toList =
      authScheme.toList ++ (authToken (username ++ ":" ++ password)).toList :=
    String.toList_append
  rw [tokenOf?, hwhole, if_pos (List.prefix_append _ _), List.drop_left]

theorem cutAtColon?_append {username : String} (h : ':' ∉ username.toList) (password : String) :
    cutAtColon? (username.toList ++ ':' :: password.toList) = some (username, password) := by
  simp only [cutAtColon?, Text.dropWhile_ne_append h, Text.takeWhile_ne_append h,
    String.ofList_toList]

theorem decode_authToken (username password : String) :
    (Base64.decode (authToken (username ++ ":" ++ password)).toList).bind Text.ofBytes? =
      some (username.toList ++ ':' :: password.toList) := by
  have hcolon : (username ++ ":" ++ password).toList =
      username.toList ++ ':' :: password.toList := Text.toList_append_sep username password ':'
  rw [authToken, String.toList_ofList, Base64.decode_encode, Option.bind_some,
    Text.ofBytes?_toBytes, hcolon]

/-- The credentials are read back from their header. -/
theorem credentials?_headerOf {username : String} (h : ':' ∉ username.toList)
    (password : String) :
    credentials? (headerOf username password) = some (username, password) := by
  rw [credentials?, tokenOf?_headerOf, Option.bind_some, decode_authToken, Option.bind_some,
    cutAtColon?_append h]

theorem headerOf_injective {username password username' password' : String}
    (h : ':' ∉ username.toList) (h' : ':' ∉ username'.toList)
    (heq : headerOf username password = headerOf username' password') :
    username = username' ∧ password = password' := by
  have hread := credentials?_headerOf h password
  rw [heq, credentials?_headerOf h' password'] at hread
  cases hread
  exact ⟨rfl, rfl⟩

/-- Behind the scheme stand characters of the alphabet in groups of four, filled up at the end. -/
theorem exists_headerOf_eq (username password : String) :
    ∃ body fillers, headerOf username password =
        authScheme ++ String.ofList (body ++ List.replicate fillers '=') ∧
      fillers ≤ 2 ∧ (∀ c ∈ body, Base64.InAlphabet c) ∧ (body.length + fillers) % 4 = 0 := by
  obtain ⟨body, fillers, hwhole, hfew, hletters, hgroups⟩ :=
    Base64.encode_shape (Text.toBytes (username ++ ":" ++ password).toList)
  refine ⟨body, fillers, ?_, hfew, hletters, hgroups⟩
  rw [headerOf, authToken, hwhole]
  rfl

theorem authHeaders_eq {name password : String} (hne : name ≠ "") {given : Option RawText}
    (h : given.getD "" = (password : RawText)) :
    authHeaders (some (name : RawText)) given =
      .ok [("Authorization", headerOf name password)] := by
  have hfull : (name : RawText).isEmpty = false :=
    RawText.isEmpty_eq_false_iff.2 fun heq => hne (RawText.whole.inj heq)
  rw [authHeaders]
  simp only [hfull, Bool.false_eq_true, if_false, h, basicAuth_whole]
  rfl

/-- The service of settings with credentials sends their header with every request. -/
theorem exists_service {s : ServiceSettings} {name password : String}
    (hname : s.username = some (name : RawText)) (hne : name ≠ "")
    (hpassword : s.password.getD "" = (password : RawText)) (platform : Platform) :
    ∃ c, Service.ofSettings s platform = .ok c ∧
      c.headers.lookup "Authorization" = some (headerOf name password) := by
  have hheaders := authHeaders_eq hne hpassword
  rw [← hname] at hheaders
  exact ⟨_, Service.ofSettings_eq_ok_iff.2 ⟨_, hheaders, rfl⟩, rfl⟩

/-- **Credentials survive their header.**  Whoever takes off the scheme, reads the bytes behind the
token, reads the text behind the bytes and cuts it at its first colon has the user name and the
password, if the user name has no colon.  The token consists of characters of the alphabet, at most
two fillers at its end, and groups of four.  So other credentials have another header, and the
header that a service sends tells the credentials of its settings. -/
theorem basicAuth_carries_credentials :
    (∀ username password : String, ':' ∉ username.toList →
      ∃ header, basicAuth username password = .ok header ∧
        credentials? header = some (username, password)) ∧
    (∀ username password : String, ∃ body fillers, basicAuth username password =
        .ok (authScheme ++ String.ofList (body ++ List.replicate fillers '=')) ∧
      fillers ≤ 2 ∧ (∀ c ∈ body, Base64.InAlphabet c) ∧ (body.length + fillers) % 4 = 0) ∧
    (∀ username password username' password' : String,
      ':' ∉ username.toList → ':' ∉ username'.toList →
      (username, password) ≠ (username', password') →
        basicAuth username password ≠ basicAuth username' password') ∧
    (∀ (s : ServiceSettings) (name password : String) platform, s.username = some ↑name →
      name ≠ "" → ':' ∉ name.toList → s.password.getD "" = ↑password →
      ∃ c header, Service.ofSettings s platform = .ok c ∧
        c.headers.lookup "Authorization" = some header ∧
        credentials? header = some (name, password)) := by
  refine ⟨?_, ?_, ?_, ?_⟩
  · intro username password h
    exact ⟨_, basicAuth_whole username password, credentials?_headerOf h password⟩
  · intro username password
    obtain ⟨body, fillers, hheader, hshape⟩ := exists_headerOf_eq username password
    exact ⟨body, fillers, by rw [basicAuth_whole, hheader], hshape⟩
  · intro username password username' password' h h' hne heq
    rw [basicAuth_whole, basicAuth_whole] at heq
    obtain ⟨rfl, rfl⟩ := headerOf_injective h h' (Except.ok.inj heq)
    exact hne rfl
  · intro s name password platform hname hne hcolon hpassword
    obtain ⟨c, hc, hheader⟩ := exists_service hname hne hpassword platform
    exact ⟨c, _, hc, hheader, credentials?_headerOf hcolon password⟩

/-- Characters of one to four bytes, and a password with colons of its own. -/
theorem credentials_of_four_widths :
    ∃ header, basicAuth "aß€𝄞" "::" = .ok header ∧ credentials? header = some ("aß€𝄞", "::") :=
  basicAuth_carries_credentials.1 "aß€𝄞" "::" (by decide)

end StationWatch
