import RobotMaze.Proofs.Login.Cookie
import RobotMaze.Proofs.Login.Opening
import RobotMaze.Proofs.Web.Login

/-! # The cookie of a login

    A login is answered with a cookie, which browsers send along from then on.

    * `cookie_of_logIn` — the cookie that is written;
    * `Context.SignsIn` — which requests carry the token of a cookie, depending on
      whether the configured name can be read back;
    * `signsIn_of_login` — so does the cookie of every login. -/

namespace RobotMaze.Web

open Time (Instant)

/-! ## The cookie that is written -/

variable {c : Context} {r : Request} {s : Store} {response : Response} {cookie : String}

/-- A refusal sets no cookie. -/
theorem Refusal.not_mem_fields (e : Refusal) (cause? : Option String) :
    ("set-cookie", cookie) ∉ (e.response cause?).fields := by
  rw [response]
  split <;> simp [Response.plain, Response.json]

theorem not_mem_redirect (path : String) :
    ("set-cookie", cookie) ∉ (Response.redirect path).fields := by
  simp [Response.redirect, Response.bare]

/-- A handled login that sets a cookie sets that of its token. -/
theorem cookie_of_logIn (h : ((Entrance.logIn c r).run s).1 = .ok response)
    (hcookie : ("set-cookie", cookie) ∈ response.fields) :
    cookie = Cookie.set c.cookieName c.token (c.loginSeconds * 1000)
      c.settings.auth.secureCookie := by
  simp only [Entrance.logIn] at h
  obtain ⟨form, -, h⟩ := ok_of_run_require h
  obtain ⟨username, -, h⟩ := ok_of_run_require h
  obtain ⟨password, -, h⟩ := ok_of_run_require h
  rw [run_attempt_bind] at h
  cases hlogin : (Logins.logIn username password c.token c.loginSeconds (r.client.actor none)
      c.now).answer s with
  | ok login =>
      obtain ⟨u, session⟩ := login
      have htoken : session.token = c.token :=
        Logins.logIn_token username password c.token c.loginSeconds _ u session hlogin
      simp only [hlogin, run_require, htoken, Entrance.withCookie] at h
      split at h
      · obtain rfl := Except.ok.inj h
        simp only [Response.withField, List.mem_append, List.mem_singleton] at hcookie
        rcases hcookie with hold | hnew
        · exact absurd (List.mem_filter.mp hold).1 (not_mem_redirect _)
        · exact (Prod.mk.inj hnew).2
      · cases h
  | error f =>
      simp only [hlogin] at h
      split at h
      case h_4 => cases h
      all_goals
        obtain rfl := Except.ok.inj h
        exact absurd hcookie (not_mem_redirect _)

/-- An answer that sets a cookie to a login sets that of its token. -/
theorem cookie_of_answer (hroute : Route.ofPath? r.path = some (.entrance .login))
    (hmethod : r.method = .post) (hcookie : ("set-cookie", cookie) ∈ ((answer c r).run s).1.fields) :
    cookie = Cookie.set c.cookieName c.token (c.loginSeconds * 1000)
      c.settings.auth.secureCookie := by
  have hhandler : handlerFor? EntranceRoute.login.handlers r.method = some Entrance.logIn := by
    rw [hmethod]
    rfl
  rw [run_answer_of_entrance hroute (by rw [hmethod]; decide) hhandler, run_respond] at hcookie
  cases hrun : ((Entrance.logIn c r).run s).1 with
  | ok response =>
      simp only [hrun] at hcookie
      exact cookie_of_logIn hrun hcookie
  | error e =>
      simp only [hrun] at hcookie
      exact absurd hcookie (e.not_mem_fields _)

/-! ## The token that is read -/

/-- What a login has set, up to its attributes, is its name and its token. -/
theorem set_eq (p : Cookie.Pair) (millis : Int) (secure : Bool) :
    ∃ attributes, Cookie.set p.name p.value millis secure = p.text ++ ";" ++ attributes := by
  refine ⟨" Path=/; HttpOnly; SameSite=Lax; Max-Age=" ++ toString (max (Int.tdiv millis 1000) 0)
    ++ (if secure then "; Secure" else ""), ?_⟩
  apply String.toList_inj.mp
  simp [Cookie.set, Cookie.Pair.text, String.toList_append]

/-- A header can be read if each of its cookies can. -/
theorem isPlain_header (pairs : List Cookie.Pair) :
    isPlain (Cookie.header pairs) = pairs.all fun p => isPlain p.text := by
  rw [isPlain, Cookie.toList_header, Text.all_intercalate (by decide), List.all_map]
  rfl

/-- What a header needs of a token: each of its characters can be read, is no blank, and is not one
    at which the header is split. -/
theorem of_mem_loginToken {bytes : List UInt8} {d : Char} (h : d ∈ (loginToken bytes).toList) :
    isPlain (String.singleton d) = true ∧ Text.isBlank d = false ∧ d ≠ ';' := by
  have hdigit : ∀ n < 64, isPlain (String.singleton (Text.Base64Url.digit n)) = true
      ∧ Text.isBlank (Text.Base64Url.digit n) = false ∧ Text.Base64Url.digit n ≠ ';' := by
    decide
  rw [loginToken, String.toList_ofList] at h
  obtain ⟨n, hn, rfl⟩ := Text.Base64Url.exists_digit_of_mem h
  exact hdigit n hn

theorem isPlain_loginToken (bytes : List UInt8) : isPlain (loginToken bytes) = true := by
  rw [isPlain, List.all_eq_true]
  intro d hd
  have hplain := (of_mem_loginToken hd).1
  rwa [isPlain, String.toList_singleton, List.all_cons, List.all_nil, Bool.and_true] at hplain

theorem trimEnd_loginToken (bytes : List UInt8) :
    Text.trimEnd (loginToken bytes) = loginToken bytes := by
  rw [Text.trimEnd, Text.dropBlankEnd_eq_self fun d hd => (of_mem_loginToken hd).2.1,
    String.ofList_toList]

theorem loginToken_ne_empty {bytes : List UInt8} (h : bytes.length = tokenBytes) :
    loginToken bytes ≠ "" := by
  intro hempty
  have hchars := String.toList_eq_nil_iff.mpr hempty
  rw [loginToken, String.toList_ofList] at hchars
  refine Text.Base64Url.encode_ne_nil ?_ hchars
  rintro rfl
  cases h

/-- A token that is read has been found under a name that can be read. -/
theorem isReadable_of_token? {name token : String} (h : r.token? name = some token) :
    Cookie.IsReadable name ∧ isPlain name = true := by
  obtain ⟨header, hheader, hfind⟩ := List.exists_of_findSome?_eq_some h
  obtain ⟨hreadable, hsubset⟩ := Cookie.isReadable_of_find? hfind
  refine ⟨hreadable, ?_⟩
  have hplain := (List.mem_filter.mp hheader).2
  rw [isPlain, List.all_eq_true] at hplain ⊢
  exact fun d hd => hplain d (hsubset hd)

/-- The cookie that a login sends along. -/
def Context.sentCookie (c : Context) : Cookie.Pair := ⟨c.cookieName, c.token⟩

/-- A configured name can be read back, and it is plain text. -/
structure Context.NamesCookie (c : Context) : Prop where
  readable : Cookie.IsReadable c.cookieName
  plain : isPlain c.cookieName = true

/-- A value is the cookie of a login, with attributes after a semicolon.  Under a name that can be
    read back, a request that brings the cookie, alone or among others of other names, carries the
    token, unless one of these cannot be read; under any other name no request carries a token. -/
structure Context.SignsIn (c : Context) (cookie : String) : Prop where
  written : ∃ attributes, cookie = c.sentCookie.text ++ ";" ++ attributes
  found (names : c.NamesCookie) {before after : List Cookie.Pair}
      (others : ∀ p ∈ before ++ after, p.Sendable ∧ p.name ≠ c.cookieName) {q : Request}
      (brought : q.values "cookie" = [Cookie.header (before ++ c.sentCookie :: after)]) :
      q.token? c.cookieName
        = if ∀ p ∈ before ++ after, isPlain p.text = true then some c.token else none
  lost (names : ¬ c.NamesCookie) (q : Request) : q.token? c.cookieName = none

/-- A header with the cookie of a login can be read if its other cookies can. -/
theorem isPlain_header_iff {bytes : List UInt8} (htoken : c.token = loginToken bytes)
    (hplain : isPlain c.cookieName = true) (before after : List Cookie.Pair) :
    isPlain (Cookie.header (before ++ c.sentCookie :: after)) = true
      ↔ ∀ p ∈ before ++ after, isPlain p.text = true := by
  have hself : isPlain c.sentCookie.text = true := by
    have htokenPlain := isPlain_loginToken bytes
    rw [← htoken] at htokenPlain
    simp only [isPlain, Context.sentCookie, Cookie.Pair.toList_text, List.all_append,
      List.all_cons] at *
    rw [hplain, htokenPlain]
    rfl
  rw [isPlain_header, List.all_eq_true]
  simp only [List.mem_append, List.mem_cons]
  constructor
  · exact fun h p hp => h p (hp.imp_right Or.inr)
  · rintro h p (hp | rfl | hp)
    · exact h p (Or.inl hp)
    · exact hself
    · exact h p (Or.inr hp)

/-- The cookie of a login signs in whoever brings it back, if the configured name can be read back,
    and nobody if not. -/
theorem signsIn_of_login {bytes : List UInt8} (htoken : c.token = loginToken bytes)
    (hbytes : bytes.length = tokenBytes) (hroute : Route.ofPath? r.path = some (.entrance .login))
    (hmethod : r.method = .post)
    (hcookie : ("set-cookie", cookie) ∈ ((answer c r).run s).1.fields) : c.SignsIn cookie where
  written := by
    rw [cookie_of_answer hroute hmethod hcookie]
    exact set_eq c.sentCookie _ _
  found names before after hothers q hq := by
    have hvalue : c.sentCookie.value = loginToken bytes := htoken
    have hsent : c.sentCookie.Sendable := by
      refine ⟨names.readable, fun hmem => ?_⟩
      rw [hvalue] at hmem
      exact (of_mem_loginToken hmem).2.2 rfl
    have hfind : Cookie.find? (Cookie.header (before ++ c.sentCookie :: after)) c.cookieName
        = some c.token := by
      refine Cookie.find?_header_append hsent ?_ ?_ hothers
      · rw [hvalue]
        exact loginToken_ne_empty hbytes
      · rw [hvalue]
        exact trimEnd_loginToken bytes
    have hheader := isPlain_header_iff htoken names.plain before after
    simp only [Request.token?, Request.texts, hq]
    by_cases hall : ∀ p ∈ before ++ after, isPlain p.text = true
    · rw [if_pos hall, List.filter_cons_of_pos (hheader.mpr hall), List.findSome?_cons, hfind]
    · rw [if_neg hall, List.filter_cons_of_neg (mt hheader.mp hall)]
      rfl
  lost hnames q := by
    cases hfound : q.token? c.cookieName with
    | none => rfl
    | some token =>
        obtain ⟨hreadable, hplain⟩ := isReadable_of_token? hfound
        exact absurd ⟨hreadable, hplain⟩ hnames

/-- Someone logs in. -/
def visitor : Request :=
  { method := .post
    path := "/login"
    fields := [("Content-Type", "application/x-www-form-urlencoded")]
    body := "username=ada&password=countess" }

/-- A site on which a login has some token. -/
def siteWith (cookieName : String) : Context where
  settings := { auth := { cookieName } }
  explanations := default
  hashing := ⟨4, [17]⟩
  now := ⟨1772370000, 0⟩
  sessionId := ""
  token := loginToken (List.replicate 32 7)
  number := 0

/-- The cookie that the visitor gets signs in. -/
theorem signsIn_of_login_visitor :
    let c := siteWith "GFD_SESSION"
    let s := (Store.empty .disabled).after adaOnly
    c.token = loginToken (List.replicate 32 7) ∧ (List.replicate 32 (7 : UInt8)).length = tokenBytes
      ∧ Route.ofPath? visitor.path = some (.entrance .login) ∧ visitor.method = .post
      ∧ c.NamesCookie
      ∧ ∃ cookie, ("set-cookie", cookie) ∈ ((answer c visitor).run s).1.fields
        ∧ c.SignsIn cookie := by
  have hroute : Route.ofPath? visitor.path = some (.entrance .login) := by decide +kernel
  have hcookie : ("set-cookie", Cookie.set "GFD_SESSION" (loginToken (List.replicate 32 7))
      28800000 false) ∈ ((answer (siteWith "GFD_SESSION") visitor).run
        ((Store.empty .disabled).after adaOnly)).1.fields := by
    decide +kernel
  have hhead : "GFD_SESSION".toList.head? = some 'G' := by decide
  have hstart : ∀ d ∈ "GFD_SESSION".toList.head?, Text.isBlank d = false := by
    intro d hd
    obtain rfl := Option.some.inj (hhead.symm.trans hd)
    decide
  have hnames : (siteWith "GFD_SESSION").NamesCookie :=
    ⟨⟨hstart, by decide, by decide⟩, by decide⟩
  exact ⟨rfl, rfl, hroute, rfl, hnames, _, hcookie, signsIn_of_login rfl rfl hroute rfl hcookie⟩

/-- The settings allow a name with an equals sign, and a login sets its cookie, but whoever brings
    that cookie back is not known. -/
theorem token?_of_equalsSign :
    let c := siteWith "maze=1"
    let s := (Store.empty .disabled).after adaOnly
    c.settings.check = .ok c.settings
      ∧ ("set-cookie", "maze=1=" ++ c.token ++ "; Path=/; HttpOnly; SameSite=Lax; Max-Age=28800")
        ∈ ((answer c visitor).run s).1.fields
      ∧ ∀ q : Request, q.values "cookie" = ["maze=1=" ++ c.token] → q.token? c.cookieName = none := by
  refine ⟨by decide +kernel, by decide +kernel, fun q _ => ?_⟩
  cases hfound : q.token? "maze=1" with
  | none => exact hfound
  | some token => exact absurd (isReadable_of_token? hfound).1.no_equals (by decide)

end RobotMaze.Web
