import Mathlib.Data.List.DropRight
import Mathlib.Data.List.TakeWhile
import MediaWatch.Client.Session
import MediaWatch.Watch.Setup

/-!
# The endpoint of the subscription

The address of the websocket follows the base URL of the server. A base URL is read in two steps: slashes at its end are
dropped (`trimSlashes_append_of_slashes`, `trimSlashes_append_of_kept`), and what is left is taken apart
(`split_of_parts`). A base URL of the web (`WebBase`) keeps its authority and its path up to the slashes at its end, only
the scheme is another one; the client that puts one slash there and the watcher that is set up with the client's base URL
agree with that (`socket_follows_base`).
-/

namespace MediaWatch.Url

/-! ## Slashes at the end -/

theorem toList_trimSlashes (s : String) : (trimSlashes s).toList = s.toList.rdropWhile (· == '/') := by
  rw [trimSlashes, Text.trimEnd, String.toList_ofList, List.rdropWhile]

theorem trimSlashes_idem (s : String) : trimSlashes (trimSlashes s) = trimSlashes s := by
  rw [← String.toList_inj, toList_trimSlashes, toList_trimSlashes, List.rdropWhile_idempotent]

/-- Slashes at the end make no difference. -/
theorem trimSlashes_append_of_slashes (s : String) {t : String} (ht : ∀ c ∈ t.toList, c = '/') :
    trimSlashes (s ++ t) = trimSlashes s := by
  rw [← String.toList_inj, toList_trimSlashes, toList_trimSlashes, String.toList_append, List.rdropWhile,
    List.reverse_append, List.dropWhile_append_of_pos, List.rdropWhile]
  intro c hc
  rw [ht c (List.mem_reverse.mp hc)]
  rfl

/-- Behind a text that does not end with a slash, only what follows is trimmed. -/
theorem trimSlashes_append_of_kept {s : String} (t : String) (hs : trimSlashes s = s) :
    trimSlashes (s ++ t) = s ++ trimSlashes t := by
  have hkept : (s.toList.reverse.dropWhile (· == '/')).reverse = s.toList := by
    rw [← List.rdropWhile, ← toList_trimSlashes, hs]
  rw [← String.toList_inj, toList_trimSlashes, String.toList_append, String.toList_append, toList_trimSlashes,
    List.rdropWhile, List.reverse_append, List.dropWhile_append, List.rdropWhile]
  split
  · rename_i hall
    rw [List.isEmpty_iff.mp hall, hkept, List.reverse_nil, List.append_nil]
  · rw [List.reverse_append, List.reverse_reverse]

/-- A text is left as it is if something without slashes stands at its end. -/
theorem trimSlashes_append_of_not_mem (s : String) {t : String} (ht : t ≠ "") (hslash : '/' ∉ t.toList) :
    trimSlashes (s ++ t) = s ++ t := by
  rw [← String.toList_inj, toList_trimSlashes, List.rdropWhile_eq_self_iff]
  intro hne hlast
  have hnil : t.toList ≠ [] := by simpa using ht
  have heq : (s ++ t).toList.getLast hne = t.toList.getLast hnil := by
    simp only [String.toList_append]
    exact List.getLast_append_of_ne_nil _ hnil
  rw [heq, beq_iff_eq] at hlast
  exact hslash (hlast ▸ List.getLast_mem hnil)

/-- The address of the websocket depends only on what is left when the slashes at the end are dropped. -/
theorem socket_eq_of_trimSlashes_eq {s t : String} (h : trimSlashes s = trimSlashes t) : socket s = socket t := by
  rw [socket, socket, h]

/-! ## Taking apart -/

/-- A text is cut where a delimiter stands for the first time. -/
theorem cut_append {stop : Char → Bool} {xs ys : List Char} (hxs : ∀ c ∈ xs, stop c = false)
    (hys : ∀ c, ys.head? = some c → stop c = true) : cut stop (xs ++ ys) = (xs, ys) := by
  have hpass : ∀ c ∈ xs, (!stop c) = true := by
    intro c hc
    rw [hxs c hc]
    rfl
  rw [cut, List.takeWhile_append_of_pos hpass, List.dropWhile_append_of_pos hpass]
  cases ys with
  | nil => simp
  | cons c rest => simp [hys c rfl]

theorem cut_of_forall {stop : Char → Bool} {xs : List Char} (h : ∀ c ∈ xs, stop c = false) :
    cut stop xs = (xs, []) := by
  have hcut : cut stop (xs ++ []) = (xs, []) := cut_append h (by simp)
  rwa [List.append_nil] at hcut

/-- Nothing is cleaned off a text without blanks and controls. -/
theorem cleaned_eq_toList {s : String} (h : ∀ c ∈ s.toList, 32 < c.toNat) : cleaned s = s.toList := by
  have hdrop : s.toList.dropWhile (fun c => decide (c.toNat ≤ 32)) = s.toList := by
    rw [List.dropWhile_eq_self_iff]
    intro hne
    have hfirst := h _ (List.getElem_mem hne)
    simpa using hfirst
  rw [cleaned, hdrop, List.filter_eq_self]
  intro c hc
  have hnot : ∀ d : Char, d.toNat ≤ 32 → c ≠ d := by
    rintro d hd rfl
    exact absurd (h c hc) (by omega)
  simp [hnot '\t' (by decide), hnot '\r' (by decide), hnot '\n' (by decide)]

/-- A scheme of letters alone is found up to its colon. -/
theorem splitScheme_of_letters {scheme : List Char} (rest : List Char) (hne : scheme ≠ [])
    (h : ∀ c ∈ scheme, c.isAlpha = true) :
    splitScheme (scheme ++ ':' :: rest) = (scheme.map Char.toLower, rest) := by
  have hcut : cut (· == ':') (scheme ++ ':' :: rest) = (scheme, ':' :: rest) := by
    apply cut_append
    · intro c hc
      refine beq_eq_false_iff_ne.mpr ?_
      rintro rfl
      exact absurd (h ':' hc) (by decide)
    · intro c hc
      rw [← Option.some.inj hc]
      rfl
  obtain ⟨c, name, rfl⟩ := List.exists_cons_of_ne_nil hne
  have hname : name.all isSchemeChar = true := by
    rw [List.all_eq_true]
    intro d hd
    simp [isSchemeChar, Char.isAlphanum, h d (List.mem_cons_of_mem c hd)]
  rw [splitScheme, hcut]
  simp [h c List.mem_cons_self, hname]

/-- An ASCII authority without brackets is a good one. -/
theorem isAuthority_of_plain {cs : List Char} (h : ∀ c ∈ cs, c.toNat < 128 ∧ c ≠ '[' ∧ c ≠ ']') :
    isAuthority cs = true := by
  have hopen : cs.contains '[' = false := by simpa using fun hc => (h _ hc).2.1 rfl
  have hclose : cs.contains ']' = false := by simpa using fun hc => (h _ hc).2.2 rfl
  have hfar : ∀ n ∈ delimiterLookalikes, 128 ≤ n := by decide
  have halike : (cs.any fun c => delimiterLookalikes.contains c.toNat) = false := by
    rw [List.any_eq_false]
    intro c hc hcontains
    have hle := hfar c.toNat (by simpa using hcontains)
    have hlt := (h c hc).1
    omega
  rw [isAuthority, hopen, hclose, halike]
  rfl

/-- Letters are no blanks or controls. -/
theorem lt_toNat_of_isAlpha {c : Char} (h : c.isAlpha = true) : 32 < c.toNat := by
  rcases (Bool.or_eq_true _ _).mp h with hupper | hlower
  · have hle : 'A'.val ≤ c.val := (of_decide_eq_true hupper).1
    exact lt_of_lt_of_le (by decide : 32 < 'A'.toNat) hle
  · have hle : 'a'.val ≤ c.val := of_decide_eq_true ((Bool.and_eq_true _ _).mp hlower).1
    exact lt_of_lt_of_le (by decide : 32 < 'a'.toNat) hle

/-- A character whose small form is a letter is a letter. -/
theorem isAlpha_of_toLower {c : Char} (h : c.toLower.isAlpha = true) : c.isAlpha = true := by
  unfold Char.toLower at h
  split at h
  · rename_i hrange
    have hupper : c.isUpper = true := decide_eq_true hrange
    exact (Bool.or_eq_true _ _).mpr (Or.inl hupper)
  · exact h

/-- The parts of a URL that is put together from a scheme of letters, an authority and a path are these again. -/
theorem split_of_parts {scheme authority path : String} (hne : scheme ≠ "")
    (hscheme : ∀ c ∈ scheme.toList, c.isAlpha = true)
    (hauthority : ∀ c ∈ authority.toList, 32 < c.toNat ∧ c.toNat < 128 ∧ c ∉ ['/', '?', '#', '[', ']'])
    (hrooted : path = "" ∨ path.toList.head? = some '/')
    (hpath : ∀ c ∈ path.toList, 32 < c.toNat ∧ c ∉ ['?', '#']) :
    split (scheme ++ "://" ++ authority ++ path) = some ⟨Text.lowerAscii scheme, authority, path⟩ := by
  have hlist : (scheme ++ "://" ++ authority ++ path).toList =
      scheme.toList ++ ':' :: '/' :: '/' :: (authority.toList ++ path.toList) := by simp
  have hclean : cleaned (scheme ++ "://" ++ authority ++ path) =
      scheme.toList ++ ':' :: '/' :: '/' :: (authority.toList ++ path.toList) := by
    rw [← hlist]
    apply cleaned_eq_toList
    intro c hc
    simp only [hlist, List.mem_append, List.mem_cons] at hc
    rcases hc with hc | rfl | rfl | rfl | hc | hc
    · exact lt_toNat_of_isAlpha (hscheme c hc)
    · decide
    · decide
    · decide
    · exact (hauthority c hc).1
    · exact (hpath c hc).1
  -- the scheme goes up to its colon, the authority up to the path, and nothing stands behind the path
  have hletters := splitScheme_of_letters ('/' :: '/' :: (authority.toList ++ path.toList)) (by simpa using hne) hscheme
  have hcut : cut isDelimiter (authority.toList ++ path.toList) = (authority.toList, path.toList) := by
    apply cut_append
    · intro c hc
      have hplain := (hauthority c hc).2.2
      simp only [List.mem_cons, not_or] at hplain
      obtain ⟨hslash, hquery, hfragment, -⟩ := hplain
      simp [isDelimiter, hslash, hquery, hfragment]
    · intro c hc
      rcases hrooted with rfl | hslash
      · simp at hc
      · rw [← Option.some.inj (hslash.symm.trans hc)]
        rfl
  have hwhole : cut (fun c => c == '?' || c == '#') path.toList = (path.toList, []) := by
    apply cut_of_forall
    intro c hc
    simpa using (hpath c hc).2
  have hgood : isAuthority authority.toList = true := by
    apply isAuthority_of_plain
    intro c hc
    obtain ⟨-, hascii, hplain⟩ := hauthority c hc
    simp only [List.mem_cons, not_or] at hplain
    obtain ⟨-, -, -, hopen, hclose, -⟩ := hplain
    exact ⟨hascii, hopen, hclose⟩
  rw [split, hclean, hletters]
  simp only [hcut, hwhole, hgood, if_true, String.ofList_toList]
  rfl

/-! ## Base URLs of the web -/

/-- A base URL by its parts: `http` or `https` in any letter case, an authority in ASCII without brackets, and a path that
is empty or begins with a slash. -/
structure WebBase where
  secure : Bool
  scheme : String
  authority : String
  path : String
  scheme_eq : Text.lowerAscii scheme = if secure then "https" else "http"
  authority_ne : authority ≠ ""
  authority_plain : ∀ c ∈ authority.toList, 32 < c.toNat ∧ c.toNat < 128 ∧ c ∉ ['/', '?', '#', '[', ']']
  path_rooted : path = "" ∨ path.toList.head? = some '/'
  path_plain : ∀ c ∈ path.toList, 32 < c.toNat ∧ c ∉ ['?', '#']

namespace WebBase

variable (b : WebBase)

/-- Its text, with the given number of slashes behind the path. -/
def text (slashes : Nat) : String :=
  b.scheme ++ "://" ++ b.authority ++ b.path ++ String.ofList (List.replicate slashes '/')

/-- A scheme of the web is a word of letters. -/
theorem isAlpha_of_mem_scheme : ∀ c ∈ b.scheme.toList, c.isAlpha = true := by
  have hlower : (b.scheme.toList.map Char.toLower).all Char.isAlpha = true := by
    have heq := congrArg String.toList b.scheme_eq
    rw [Text.lowerAscii, String.toList_ofList] at heq
    rw [heq]
    cases b.secure <;> decide
  intro c hc
  exact isAlpha_of_toLower (List.all_eq_true.mp hlower _ (List.mem_map_of_mem hc))

theorem scheme_ne : b.scheme ≠ "" := by
  intro hnil
  have heq := b.scheme_eq
  rw [hnil] at heq
  cases hsecure : b.secure <;> simp [hsecure, Text.lowerAscii] at heq

/-- All its texts are the same up to the slashes at their end. -/
theorem trimSlashes_text (slashes : Nat) :
    trimSlashes (b.text slashes) = b.scheme ++ "://" ++ b.authority ++ trimSlashes b.path := by
  have hauthority : '/' ∉ b.authority.toList := by
    intro hc
    exact absurd (b.authority_plain _ hc).2.2 (by simp)
  rw [text, trimSlashes_append_of_slashes _ (by simp)]
  apply trimSlashes_append_of_kept
  exact trimSlashes_append_of_not_mem _ b.authority_ne hauthority

/-- A path without the slashes at its end is the beginning of the path. -/
theorem trimmed_path_prefix : (trimSlashes b.path).toList <+: b.path.toList := by
  rw [toList_trimSlashes]
  exact List.rdropWhile_prefix _ _

theorem trimmed_path_rooted : trimSlashes b.path = "" ∨ (trimSlashes b.path).toList.head? = some '/' := by
  obtain ⟨slashes, hpath⟩ := b.trimmed_path_prefix
  by_cases hempty : trimSlashes b.path = ""
  · exact Or.inl hempty
  · have hne : (trimSlashes b.path).toList ≠ [] := by simpa using hempty
    rcases b.path_rooted with hnil | hslash
    · have hnone : b.path.toList = [] := String.toList_eq_nil_iff.mpr hnil
      exact absurd (List.append_eq_nil_iff.mp (hpath.trans hnone)).1 hne
    · rw [← hpath, List.head?_append_of_ne_nil _ hne] at hslash
      exact Or.inr hslash

/-- What `split` makes of the text without slashes at its end. -/
theorem split_trimmed : split (b.scheme ++ "://" ++ b.authority ++ trimSlashes b.path) =
    some ⟨if b.secure then "https" else "http", b.authority, trimSlashes b.path⟩ := by
  rw [← b.scheme_eq]
  apply split_of_parts b.scheme_ne b.isAlpha_of_mem_scheme b.authority_plain b.trimmed_path_rooted
  intro c hc
  exact b.path_plain c (b.trimmed_path_prefix.subset hc)

/-- The address of the websocket. -/
theorem socket_text (slashes : Nat) : socket (b.text slashes) =
    some ((if b.secure then "wss" else "ws") ++ ("://" ++ b.authority ++ trimSlashes b.path ++ "/api/graphql")) := by
  have hrooted : (trimSlashes b.path ++ "/" ++ graphqlPath).toList.head? = some '/' := by
    rcases b.trimmed_path_rooted with hempty | hslash
    · rw [hempty]
      rfl
    · simp [String.toList_append, List.head?_append, hslash]
  have hscheme : ∀ secure : Bool, (if (if secure then "https" else "http") = "https" then "wss" else "ws") =
      if secure then "wss" else "ws" := by decide
  rw [socket, b.trimSlashes_text, b.split_trimmed, Option.map_some, trimSlashes_idem]
  simp only [hscheme, hrooted, beq_self_eq_true, if_true]
  have hqueries : "/" ++ graphqlPath = "/api/graphql" := rfl
  rw [← hqueries]
  simp only [String.append_assoc]

end WebBase

/-! ## The client and the watcher -/

/-- The client's base URL is the same up to slashes at the end. -/
theorem trimSlashes_normalBase (base : String) : trimSlashes (Client.normalBase base) = trimSlashes base := by
  rw [Client.normalBase, trimSlashes_append_of_slashes _ (by simp), trimSlashes_idem]

/-- **The websocket follows the base URL.** The address of the websocket of a base URL of the web has `ws` for `http` and
`wss` for `https`, the same authority, the path without the slashes at its end, and the path of the queries. It is the
same with any number of slashes at the end and with the base URL of the client, on whose queries' URL only the scheme
differs; and there a subscription that is set up with the client's base URL connects. -/
theorem socket_follows_base (b : WebBase) (slashes : Nat) :
    let base := b.text slashes
    let rest := "://" ++ b.authority ++ trimSlashes b.path ++ "/api/graphql"
    let address := (if b.secure then "wss" else "ws") ++ rest
    socket base = some address ∧
      (∀ others, socket (b.text others) = socket base) ∧ socket (trimSlashes base) = socket base ∧
      socket (Client.normalBase base) = socket base ∧
      (∀ document arguments,
        Client.normalBase base ++ (Client.Message.query document arguments).path = b.scheme ++ rest) ∧
      (∀ (τ : Type) (apiKey : String) (bucket : Bucket τ) (client : Client τ),
        Client.ofBase? base apiKey bucket = some client → client.baseUrl = Client.normalBase base) ∧
      ∀ (s : Settings) (fallback : Bool) (interval timeout : Option Number), ∃ interval' timeout',
        s.push (Client.normalBase base) fallback interval timeout = some (.push address fallback interval' timeout') := by
  intro base rest address
  have hsocket : socket base = some address := b.socket_text slashes
  have hnormal : socket (Client.normalBase base) = socket base :=
    socket_eq_of_trimSlashes_eq (trimSlashes_normalBase base)
  refine ⟨hsocket, ?_, socket_eq_of_trimSlashes_eq (trimSlashes_idem base), hnormal, ?_, ?_, ?_⟩
  · intro others
    rw [hsocket, b.socket_text others]
  · intro document arguments
    show trimSlashes (b.text slashes) ++ "/" ++ graphqlPath = _
    rw [b.trimSlashes_text]
    simp [rest, graphqlPath, String.append_assoc]
  · intro τ apiKey bucket client hclient
    obtain ⟨_, -, rfl⟩ := Option.map_eq_some_iff.mp hclient
    rfl
  · intro s fallback interval timeout
    rw [Settings.push, hnormal, hsocket, Option.map_some]
    exact ⟨_, _, rfl⟩

/-- A base URL in capitals, with a user, a port and an empty segment in its path. -/
def WebBase.shouted : WebBase where
  secure := true
  scheme := "HTTPS"
  authority := "me@stump.example.com:8443"
  path := "//stump/"
  scheme_eq := by decide
  authority_ne := by decide
  authority_plain := by simp
  path_rooted := by decide
  path_plain := by simp

/-- The endpoint of a base URL with slashes at its end, and a client of it. -/
theorem socket_follows_base_of_shouted :
    let base := "HTTPS://me@stump.example.com:8443//stump///"
    let clientBase := "HTTPS://me@stump.example.com:8443//stump/"
    socket base = some "wss://me@stump.example.com:8443//stump/api/graphql" ∧ socket clientBase = socket base ∧
      clientBase ++ (Client.Message.query .getLibraries []).path =
        "HTTPS://me@stump.example.com:8443//stump/api/graphql" ∧
      ∃ client : Client Nat, Client.ofBase? base "key" ⟨1, 1, 1, 1, 0⟩ = some client ∧ client.baseUrl = clientBase := by
  intro base clientBase
  have htext : WebBase.shouted.text 2 = base := by decide
  have hbase : Client.normalBase base = clientBase := by decide
  have hrest : "://" ++ WebBase.shouted.authority ++ trimSlashes WebBase.shouted.path ++ "/api/graphql" =
      "://me@stump.example.com:8443//stump/api/graphql" := by decide
  have haddress : Address.ofBase? (Client.normalBase base) =
      some ⟨"https", "me", "stump.example.com", some 8443, "//stump/"⟩ := by decide
  obtain ⟨client, hclient⟩ : ∃ client : Client Nat, Client.ofBase? base "key" ⟨1, 1, 1, 1, 0⟩ = some client := by
    rw [Client.ofBase?, haddress]
    exact ⟨_, rfl⟩
  obtain ⟨hsocket, -, -, hnormal, hqueries, hmade, -⟩ := socket_follows_base WebBase.shouted 2
  rw [htext, hrest] at hsocket
  rw [htext, hbase] at hnormal
  refine ⟨hsocket, hnormal, ?_, client, hclient, ?_⟩
  · rw [← hbase, ← htext, hqueries .getLibraries [], hrest]
    rfl
  · rw [← hbase, ← htext]
    exact hmade Nat "key" _ client hclient

end MediaWatch.Url
