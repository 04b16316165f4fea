import RecordMapper.Proofs.Query.Groups
import RecordMapper.Proofs.Schema.Name
import RecordMapper.Proofs.Url.Encoding
import RecordMapper.Sql.Identifier
import RecordMapper.Url.Reading

/-!
Reading URLs that name a user, a password, a host, a port and a path of one segment. Each part is cut off
at the mark behind it, and is kept as it is written.
-/

set_option autoImplicit false

namespace RecordMapper.Url

/-! ## The marks between the parts -/

theorem upTo_append {ends : Char → Bool} {before rest : List Char}
    (kept : ∀ c ∈ before, ends c = false) (stops : ∀ c ∈ rest.head?, ends c = true) :
    upTo ends (before ++ rest) = (before, rest) := by
  have passes : ∀ c ∈ before, (!ends c) = true := fun c member => by rw [kept c member]; rfl
  unfold upTo
  rw [List.takeWhile_append_of_pos passes, List.dropWhile_append_of_pos passes]
  cases rest with
  | nil => simp
  | cons c rest => simp [stops c rfl]

private theorem characters_of_shown {text : String} (shown : ∀ c ∈ text.toList, 0x20 < c.toNat) :
    characters text = text.toList := by
  have trimmed : Text.Trimmed (fun c => decide (c.toNat ≤ 0x20)) text.toList :=
    ⟨fun c first => by simpa using shown c (List.mem_of_head? first),
      fun c last => by simpa using shown c (List.mem_of_getLast? last)⟩
  rw [characters, Text.trimBoth_of_trimmed trimmed, List.filter_eq_self]
  intro c member
  have large := shown c member
  simp only [Bool.not_eq_true', List.contains_eq_mem, decide_eq_false_iff_not]
  intro control
  simp only [List.mem_cons, List.not_mem_nil, or_false] at control
  rcases control with rfl | rfl | rfl <;> exact absurd large (by decide)

private theorem cutLogin_append {login place : List Char} (kept : '@' ∉ place) :
    cutLogin? (login ++ '@' :: place) = some (login, place) := by
  have reversed : (login ++ '@' :: place).reverse = place.reverse ++ '@' :: login.reverse := by simp
  rw [cutLogin?, reversed, Text.cut?_append (fun c member => ?_) rfl]
  · simp
  · rw [beq_eq_false_iff_ne]
    rintro rfl
    exact kept (List.mem_reverse.mp member)

private theorem cutHost_append {host rest : List Char} (kept : ∀ c ∈ host, c ≠ ':' ∧ c ≠ '[') :
    cutHost false (host ++ ':' :: rest) = (host, ':' :: rest) := by
  induction host with
  | nil => rfl
  | cons c host ih =>
      obtain ⟨⟨colon, bracket⟩, others⟩ := List.forall_mem_cons.mp kept
      have unbracketed : (c == '[') = false := beq_eq_false_iff_ne.mpr bracket
      rw [List.cons_append, cutHost]
      simp [colon, unbracketed, ih others]

private theorem pieces_of_uncut {cuts : Char → Bool} {cs : List Char}
    (kept : ∀ c ∈ cs, cuts c = false) :
    Text.pieces cuts cs = [cs] := by
  induction cs with
  | nil => rfl
  | cons c cs ih =>
      obtain ⟨keeps, others⟩ := List.forall_mem_cons.mp kept
      simp [Text.pieces, keeps, ih others]

/-! ## Ports -/

private theorem digitsValue_toDigits (n : Nat) : digitsValue (Nat.toDigits 10 n) = n := by
  have values : digitsValue (Nat.toDigits 10 n) = Nat.ofDigitChars 10 (Nat.toDigits 10 n) 0 := by
    unfold digitsValue Nat.ofDigitChars
    simp only [Nat.mul_comm]
  rw [values, Nat.ofDigitChars_ten_toDigits]

private theorem readPort_toDigits (port : UInt16) :
    readPort (':' :: Nat.toDigits 10 port.toNat) = .ok (some port, []) := by
  have digits : ∀ c ∈ Nat.toDigits 10 port.toNat, c.isDigit = true := fun _ member =>
    Nat.isDigit_of_mem_toDigits (by decide) (by decide) member
  have small : ¬ 65535 < port.toNat := by have := port.toNat_lt; omega
  rw [readPort, List.takeWhile_eq_self_iff.mpr digits, List.dropWhile_eq_nil_iff.mpr digits,
    digitsValue_toDigits]
  simp [small, Nat.toDigits_ne_nil]

/-! ## Characters of the parts -/

def marks : List Char := ['/', '?', '#', ':', '@', '[']

def isDomainChar (c : Char) : Bool := c.isAlphanum || ['-', '.', '_'].contains c

theorem large_of_shown {c : Char} (shown : encodesInFragment c = false) : 0x20 < c.toNat := by
  simp only [encodesInFragment, isHidden, Bool.or_eq_false_iff, decide_eq_false_iff_not] at shown
  have blank : c.toNat ≠ 0x20 := by
    intro same
    obtain rfl : c = ' ' := Char.toNat_inj.mp same
    exact absurd shown.2 (by decide)
  omega

theorem unmarked_of_shown {c : Char} (shown : encodesInUser c = false) :
    0x20 < c.toNat ∧ c ∉ marks := by
  constructor
  · exact large_of_shown (Bool.or_eq_false_iff.mp (Bool.or_eq_false_iff.mp shown).1).1
  · intro mark
    simp only [marks, List.mem_cons, List.not_mem_nil, or_false] at mark
    rcases mark with rfl | rfl | rfl | rfl | rfl | rfl <;> exact absurd shown (by decide)

private theorem lt_of_isAlphanum {c : Char} (alphanum : c.isAlphanum = true) : c.toNat < 0x80 := by
  have kinds : c.isAlphanum = ((decide (c.val ≥ 'A'.val ∧ c.val ≤ 'Z'.val) ||
      decide (c.val ≥ 'a'.val) && decide (c.val ≤ 'z'.val)) ||
      decide (c.val ≥ '0'.val) && decide (c.val ≤ '9'.val)) := rfl
  simp only [kinds, Bool.or_eq_true, Bool.and_eq_true, decide_eq_true_eq,
    UInt32.le_iff_toNat_le] at alphanum
  rcases alphanum with (⟨_, capital⟩ | ⟨_, small⟩) | ⟨_, digit⟩
  · exact Nat.lt_of_le_of_lt capital (by decide)
  · exact Nat.lt_of_le_of_lt small (by decide)
  · exact Nat.lt_of_le_of_lt digit (by decide)

private theorem unmarked_of_isDomainChar_ascii :
    ∀ point < 0x80, isDomainChar (Char.ofNat point) = true →
    (0x20 < point ∧ Char.ofNat point ∉ marks) ∧
      isHidden (Char.ofNat point) = false ∧ forbiddenInHost.contains (Char.ofNat point) = false := by
  decide +kernel

theorem unmarked_of_isDomainChar {c : Char} (plain : isDomainChar c = true) :
    (0x20 < c.toNat ∧ c ∉ marks) ∧ isHidden c = false ∧ forbiddenInHost.contains c = false := by
  have small : c.toNat < 0x80 := by
    rcases Bool.or_eq_true_iff.mp plain with alphanum | mark
    · exact lt_of_isAlphanum alphanum
    · simp only [List.contains_iff_mem, List.mem_cons, List.not_mem_nil, or_false] at mark
      rcases mark with rfl | rfl | rfl <;> decide
  have ascii := unmarked_of_isDomainChar_ascii c.toNat small
  rw [Char.ofNat_toNat] at ascii
  exact ascii plain

theorem isDomainChar_of_mem_toDigits {n : Nat} {c : Char} (member : c ∈ Nat.toDigits 10 n) :
    isDomainChar c = true := by
  have digit := Nat.isDigit_of_mem_toDigits (by decide) (by decide) member
  simp [isDomainChar, Char.isAlphanum, digit]

/-! ## Schemes -/

theorem mem_schemes {scheme : String} {d : Dialect} (known : Dialect.ofScheme? scheme = some d) :
    scheme ∈ ["mysql", "postgresql", "postgres", "pgsql"] := by
  unfold Dialect.ofScheme? at known
  split at known
  · rename_i mysql
    exact List.mem_cons.mpr (.inl mysql)
  · split at known
    · rename_i postgres
      exact List.mem_cons_of_mem _ (by simpa using postgres)
    · cases known

theorem isDomainChar_of_mem_scheme {scheme : String} {d : Dialect}
    (known : Dialect.ofScheme? scheme = some d) : ∀ c ∈ scheme.toList, isDomainChar c = true := by
  have plain : ∀ scheme ∈ ["mysql", "postgresql", "postgres", "pgsql"],
      scheme.toList.all isDomainChar = true := by decide
  exact List.all_eq_true.mp (plain scheme (mem_schemes known))

/-- The schemes of dialects are cut off, and none of them is one of the web's. -/
theorem cutScheme_of_dialect {scheme : String} {d : Dialect} (known : Dialect.ofScheme? scheme = some d)
    (rest : List Char) :
    cutScheme? (scheme.toList ++ ':' :: rest) = some (scheme, rest) ∧ scheme ≠ "file" ∧
      isWeb scheme = false := by
  have kept : ∀ c ∈ scheme.toList, (c == ':') = false := by
    intro c member
    rw [beq_eq_false_iff_ne]
    rintro rfl
    exact absurd (isDomainChar_of_mem_scheme known ':' member) (by decide)
  have schemes := mem_schemes known
  rw [cutScheme?, Text.cut?_append kept rfl]
  simp only [List.mem_cons, List.not_mem_nil, or_false] at schemes
  rcases schemes with rfl | rfl | rfl | rfl
  all_goals exact ⟨rfl, by decide, by decide⟩

/-! ## The authority -/

/-- The parts of a URL as they are written there, none of which has a mark that would end it. -/
structure Parts where
  user : List Char
  password : List Char
  host : List Char
  port : UInt16
  segment : List Char
  user_shown : ∀ c ∈ user, encodesInUser c = false
  password_shown : ∀ c ∈ password, encodesInUser c = false
  password_ne : password ≠ []
  host_plain : ∀ c ∈ host, isDomainChar c = true
  host_ne : host ≠ []
  segment_shown : ∀ c ∈ segment, encodesInPath c = false
  segment_flat : '/' ∉ segment

namespace Parts

variable (p : Parts)

def site : List Char := p.host ++ ':' :: Nat.toDigits 10 p.port.toNat

def place : List Char := (p.user ++ ':' :: p.password) ++ '@' :: p.site

def authority : Authority where
  user := String.ofList p.user
  password := some (String.ofList p.password)
  host := String.ofList p.host
  port := some p.port

private theorem readLogin_eq :
    readLogin (p.user ++ ':' :: p.password) =
      (String.ofList p.user, some (String.ofList p.password)) := by
  have kept : ∀ c ∈ p.user, (c == ':') = false := fun c member =>
    beq_eq_false_iff_ne.mpr fun colon =>
      (unmarked_of_shown (p.user_shown c member)).2 (by simp [colon, marks])
  have given : p.password.isEmpty = false := by simp [p.password_ne]
  rw [readLogin, Text.cut?_append kept rfl]
  simp only [given, encode_eq_self p.user_shown, encode_eq_self p.password_shown]
  rfl

private theorem readHost_eq : readHost false p.host = .ok (String.ofList p.host) := by
  have forbidden : p.host.any forbiddenInHost.contains = false :=
    List.any_eq_false.mpr fun c member => by
      rw [(unmarked_of_isDomainChar (p.host_plain c member)).2.2]
      exact Bool.false_ne_true
  have hidden : ∀ c ∈ p.host, isHidden c = false := fun c member =>
    (unmarked_of_isDomainChar (p.host_plain c member)).2.1
  unfold readHost
  split
  · rename_i rest written
    exact absurd (p.host_plain '[' (written ▸ List.mem_cons_self)) (by decide)
  · rw [forbidden, encode_eq_self hidden]
    rfl

theorem unmarked_of_mem_site {c : Char} (member : c ∈ p.site) :
    0x20 < c.toNat ∧ (c ∉ marks ∨ c = ':') := by
  rcases List.mem_append.mp member with host | port
  · exact (unmarked_of_isDomainChar (p.host_plain c host)).1.imp_right .inl
  · rcases List.mem_cons.mp port with rfl | digit
    · decide
    · exact (unmarked_of_isDomainChar (isDomainChar_of_mem_toDigits digit)).1.imp_right .inl

theorem unmarked_of_mem_place {c : Char} (member : c ∈ p.place) :
    0x20 < c.toNat ∧ (c ∉ marks ∨ c = ':' ∨ c = '@') := by
  rcases List.mem_append.mp member with login | site
  · rcases List.mem_append.mp login with user | password
    · exact (unmarked_of_shown (p.user_shown c user)).imp_right .inl
    · rcases List.mem_cons.mp password with rfl | password
      · decide
      · exact (unmarked_of_shown (p.password_shown c password)).imp_right .inl
  · rcases List.mem_cons.mp site with rfl | site
    · decide
    · exact (p.unmarked_of_mem_site site).imp_right fun unmarked => unmarked.imp_right .inl

private theorem readAuthority_eq :
    readAuthority false (p.place ++ '/' :: p.segment) = .ok (p.authority, '/' :: p.segment) := by
  have unended (c : Char) (member : c ∈ p.place) : (isSlash false c || endsPath c) = false := by
    rcases (p.unmarked_of_mem_place member).2 with unmarked | rfl | rfl
    · simp_all [marks, isSlash, endsPath]
    · decide
    · decide
  have whole : upTo (fun c => isSlash false c || endsPath c) (p.place ++ '/' :: p.segment) =
      (p.place, '/' :: p.segment) := upTo_append unended fun c first => by
    cases first
    rfl
  have login : cutLogin? p.place = some (p.user ++ ':' :: p.password, p.site) := by
    apply cutLogin_append
    intro sign
    exact absurd (p.unmarked_of_mem_site sign).2 (by decide)
  have cut : cutHost false p.site = (p.host, ':' :: Nat.toDigits 10 p.port.toNat) := by
    apply cutHost_append
    intro c member
    have unmarked := (unmarked_of_isDomainChar (p.host_plain c member)).1.2
    constructor <;> rintro rfl <;> exact absurd unmarked (by decide)
  unfold readAuthority
  simp only [whole, login, cut, p.readLogin_eq, p.readHost_eq, readPort_toDigits, Option.getD_some]
  simp [p.host_ne, authority, bind, Except.bind, pure, Except.pure]

/-! ## The path -/

def Dotted : Prop := isSingleDot p.segment = true ∨ isDoubleDot p.segment = true

instance : Decidable p.Dotted := inferInstanceAs (Decidable (_ ∨ _))

private theorem pathAfterAuthority_eq :
    pathAfterAuthority false ('/' :: p.segment) =
      if p.Dotted then "/" else "/" ++ String.ofList p.segment := by
  have single : Text.pieces (isSlash false) p.segment = [p.segment] := by
    apply pieces_of_uncut
    intro c member
    have other : c ≠ '/' := fun slash => p.segment_flat (slash ▸ member)
    simp [isSlash, other]
  have path : pathAfterAuthority false ('/' :: p.segment) = rootedPath false p.segment := rfl
  rw [path, rootedPath, single, List.map_singleton, encode_eq_self p.segment_shown, followDots,
    followDots]
  unfold Dotted
  by_cases double : isDoubleDot p.segment = true
  · simp [double, dropLatest]
  · by_cases dot : isSingleDot p.segment = true
    · simp [double, dot, followDots]
    · simp [double, dot, followDots]

/-! ## The whole URL -/

def url (scheme path : String) : Url where
  scheme := scheme
  authority := some p.authority
  path := path

def path : String := "/" ++ String.ofList p.segment

theorem toList_text (scheme path : String) :
    (p.url scheme path).text.toList =
      scheme.toList ++ ':' :: '/' :: '/' :: (p.place ++ path.toList) := by
  simp [text, url, Url.place, Authority.text, authority, Authority.login, marked, place, site]

/-- Read back, a URL has its parts as they were written. A path of dots leads nowhere. -/
theorem ofText_text {scheme : String} {d : Dialect} (known : Dialect.ofScheme? scheme = some d) :
    Url.ofText (p.url scheme p.path).text = .ok (p.url scheme (if p.Dotted then "/" else p.path)) := by
  have whole : (p.url scheme p.path).text.toList =
      scheme.toList ++ ':' :: '/' :: '/' :: (p.place ++ '/' :: p.segment) := by
    simp [toList_text, path]
  have shown : ∀ c ∈ (p.url scheme p.path).text.toList, 0x20 < c.toNat := by
    intro c member
    rw [whole] at member
    simp only [List.mem_append, List.mem_cons] at member
    rcases member with name | rfl | rfl | rfl | place | rfl | segment
    · exact (unmarked_of_isDomainChar (isDomainChar_of_mem_scheme known c name)).1.1
    · decide
    · decide
    · decide
    · exact (p.unmarked_of_mem_place place).1
    · decide
    · exact large_of_shown (Bool.or_eq_false_iff.mp (p.segment_shown c segment)).1
  obtain ⟨cut, notFile, notWeb⟩ :=
    cutScheme_of_dialect known ('/' :: '/' :: (p.place ++ '/' :: p.segment))
  have path : upTo endsPath ('/' :: p.segment) = ('/' :: p.segment, []) := by
    have kept : ∀ c ∈ '/' :: p.segment, endsPath c = false := by
      refine List.forall_mem_cons.mpr ⟨rfl, fun c member => ?_⟩
      have shown := (Bool.or_eq_false_iff.mp (p.segment_shown c member)).2
      simp_all [endsPath]
    have whole : upTo endsPath (('/' :: p.segment) ++ []) = ('/' :: p.segment, []) :=
      upTo_append kept (by simp)
    rwa [List.append_nil] at whole
  rw [Url.ofText, characters_of_shown shown, whole, read, cut]
  simp only [notFile, notWeb, readPlace, p.readAuthority_eq, bind, Except.bind, path,
    p.pathAfterAuthority_eq]
  rfl

end Parts

end RecordMapper.Url
