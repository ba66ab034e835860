import VcpuPinning.Rpc.Client

/-!
# Addresses that can be written

A request says in full where it goes. From an address that does not end early the full address of a
call is the address followed by the path of the route (`Client.target_of_inside`), and every address
of a host name and a port can be written so (`Client.target_of_named`).
-/

namespace VcpuPinning

namespace Http.Uri

/-! ## Authorities -/

/-- A character of a host name or a port: an ASCII letter or digit, a hyphen or a dot. -/
def isNameChar (c : Char) : Bool :=
  let n := c.toNat
  n = 0x2D || n = 0x2E || (0x30 ≤ n && n ≤ 0x39) || (0x41 ≤ n && n ≤ 0x5A) ||
    (0x61 ≤ n && n ≤ 0x7A)

theorem isAuthorityChar_of_isNameChar {c : Char} (h : isNameChar c) : isAuthorityChar c := by
  simp only [isNameChar, isAuthorityChar, Bool.or_eq_true, Bool.and_eq_true,
    decide_eq_true_eq] at h ⊢
  omega

theorem isInside_of_isNameChar {c : Char} (h : isNameChar c ∨ c = ':') : isInside c := by
  rcases h with h | rfl
  · have hne : ∀ d, isNameChar d = false → c ≠ d := by
      rintro d hd rfl
      exact Bool.false_ne_true (hd.symm.trans h)
    simp [isInside, hne '/' (by decide), hne '?' (by decide), hne '#' (by decide)]
  · decide

theorem isHeaderChar_of_isNameChar {c : Char} (h : isNameChar c ∨ c = ':') :
    c = '\t' || (0x20 ≤ c.toNat && c.toNat ≠ 0x7F) := by
  rcases h with h | rfl
  · simp only [isNameChar, Bool.or_eq_true, Bool.and_eq_true, decide_eq_true_eq] at h ⊢
    omega
  · decide

/-- A character of a name changes nothing that matters. -/
theorem Seen.next_of_isNameChar (s : Seen) {c : Char} (h : isNameChar c) : s.next c = .ok s := by
  unfold next
  split
  case h_6 => exact if_pos (isAuthorityChar_of_isNameChar h)
  all_goals exact absurd h (by decide)

theorem Seen.foldlM_next (s : Seen) {cs : List Char} (h : ∀ c ∈ cs, isNameChar c) :
    cs.foldlM Seen.next s = .ok s := by
  induction cs with
  | nil => rfl
  | cons c cs ih =>
    rw [List.forall_mem_cons] at h
    rw [List.foldlM_cons, s.next_of_isNameChar h.1]
    exact ih h.2

/-- A host name and a port are an authority. -/
theorem authorityError?_of_named {name port : List Char} (hname : ∀ c ∈ name, isNameChar c)
    (hport : ∀ c ∈ port, isNameChar c) : authorityError? (name ++ ':' :: port) = none := by
  have hseen : (name ++ ':' :: port).foldlM Seen.next {} = .ok { colons := 1 } := by
    rw [List.foldlM_append, Seen.foldlM_next _ hname]
    exact Seen.foldlM_next _ hport
  have hlast : (':' :: port).getLast? ≠ some '@' := by
    intro h
    rcases List.mem_cons.1 (List.mem_of_getLast? h) with h | h
    · exact absurd h (by decide)
    · exact absurd (hport _ h) (by decide)
  unfold authorityError?
  rw [hseen]
  simp [hlast]

/-! ## Full addresses -/

/-- An authority is read up to the slash of the path. -/
theorem takeWhile_isInside {front tail : List Char} (hfront : ∀ c ∈ front, isInside c)
    (htail : tail.head? = some '/') : (front ++ tail).takeWhile isInside = front := by
  obtain ⟨cs, rfl⟩ := List.head?_eq_some_iff.1 htail
  rw [List.takeWhile_append_of_pos hfront]
  exact List.append_nil _

theorem dropWhile_isInside {front tail : List Char} (hfront : ∀ c ∈ front, isInside c)
    (htail : tail.head? = some '/') : (front ++ tail).dropWhile isInside = tail := by
  obtain ⟨cs, rfl⟩ := List.head?_eq_some_iff.1 htail
  rw [List.dropWhile_append_of_pos hfront]
  rfl

/-- What is read of an authority with a path. -/
theorem read_append {authority path : String} (ha : ∀ c ∈ authority.toList, isInside c)
    (hp : path.toList.head? = some '/') (hq : Path.beforeQuery path.toList = path.toList) :
    read (authority ++ path) =
      if maxSize < (scheme ++ (authority ++ path)).utf8ByteSize then .error .tooLong
      else
        match authorityError? authority.toList with
        | some e => .error e
        | none =>
          if path.toList.all isPathChar then .ok ⟨authority, path, none⟩ else .error .character := by
  have htake : (authority ++ path).toList.takeWhile isInside = authority.toList := by
    rw [String.toList_append, takeWhile_isInside ha hp]
  have hdrop : (authority ++ path).toList.dropWhile isInside = path.toList := by
    rw [String.toList_append, dropWhile_isInside ha hp]
  unfold read
  cases herror : authorityError? authority.toList with
  | some e => simp only [htake, herror]
  | none =>
    simp only [htake, herror, hdrop, hq, List.drop_length, query?, Option.all_none, Bool.and_true,
      Option.map_none, String.ofList_toList]

theorem text_of_path (authority : String) {path : String} (hp : path.toList.head? = some '/') :
    text ⟨authority, path, none⟩ = scheme ++ authority ++ path := by
  have hne : path.isEmpty = false := by
    rw [Bool.eq_false_iff]
    intro h
    rw [String.isEmpty_iff.1 h] at hp
    exact nomatch hp
  simp [text, hne]

/-- The full address of an authority with a path. -/
theorem text_of_read {authority path : String} (ha : ∀ c ∈ authority.toList, isInside c)
    (hp : path.toList.head? = some '/') (hq : Path.beforeQuery path.toList = path.toList) {u : Uri}
    (h : read (authority ++ path) = .ok u) : u.text = scheme ++ authority ++ path := by
  rw [read_append ha hp hq] at h
  split at h
  · exact nomatch h
  split at h
  · exact nomatch h
  split at h
  · cases h
    exact text_of_path authority hp
  · exact nomatch h

end Http.Uri

namespace Rpc

theorem Route.head?_path (route : Route) : route.path.toList.head? = some '/' := by
  cases route <;> rfl

theorem Route.beforeQuery_path (route : Route) :
    Http.Path.beforeQuery route.path.toList = route.path.toList := by
  cases route <;> decide +kernel

namespace Client

variable {c : Client} {route : Route}

/-- The error of an address that cannot be written. -/
theorem codec_of_target_error {e : CallError} (h : c.target route = .error e) :
    ∃ detail, e = .codec route detail := by
  unfold Client.target at h
  split at h
  · cases h
    exact ⟨_, rfl⟩
  split at h
  · exact nomatch h
  · cases h
    exact ⟨_, rfl⟩

/-- An address that can be dialled, but has the colons of a long number outside of brackets. -/
example : (Address.read "::1:9000").toOption.isSome ∧
    Client.target ⟨"::1:9000", .ofSeconds 30, none⟩ .reapplyMapping =
      .error (.codec .reapplyMapping "invalid authority") := ⟨by decide +kernel, by cbv⟩

/-- The full address of a call, if the address of the client does not end early. -/
theorem target_of_inside (hc : ∀ d ∈ c.address.toList, Http.Uri.isInside d) {target : String}
    (h : c.target route = .ok target) : target = Http.Uri.scheme ++ c.address ++ route.path := by
  unfold Client.target at h
  cases hu : Http.Uri.read (c.address ++ route.path) with
  | error e => simp [hu] at h
  | ok uri =>
    simp only [hu] at h
    split at h
    · cases h
      exact Http.Uri.text_of_read hc route.head?_path route.beforeQuery_path hu
    · exact nomatch h

/-- The address of a host name and a port can be written. -/
theorem target_of_named {name port : List Char} (hc : c.address.toList = name ++ ':' :: port)
    (hname : ∀ d ∈ name, Http.Uri.isNameChar d) (hport : ∀ d ∈ port, Http.Uri.isNameChar d)
    (hsize : (Http.Uri.scheme ++ (c.address ++ route.path)).utf8ByteSize ≤ Http.Uri.maxSize) :
    c.target route = .ok (Http.Uri.scheme ++ c.address ++ route.path) := by
  have hchars : ∀ d ∈ c.address.toList, Http.Uri.isNameChar d ∨ d = ':' := by
    rw [hc]
    intro d hd
    rcases List.mem_append.1 hd with hd | hd
    · exact .inl (hname d hd)
    · exact (List.mem_cons.1 hd).symm.imp_left (hport d)
  have hinside : ∀ d ∈ c.address.toList, Http.Uri.isInside d := fun d hd =>
    Http.Uri.isInside_of_isNameChar (hchars d hd)
  have hheader : Http.isHeaderValue c.address := List.all_eq_true.2 fun d hd =>
    Http.Uri.isHeaderChar_of_isNameChar (hchars d hd)
  have hpath : route.path.toList.all Http.Uri.isPathChar := by cases route <;> decide +kernel
  have hread : Http.Uri.read (c.address ++ route.path) = .ok ⟨c.address, route.path, none⟩ := by
    rw [Http.Uri.read_append hinside route.head?_path route.beforeQuery_path,
      if_neg (Nat.not_lt.2 hsize), hc, Http.Uri.authorityError?_of_named hname hport]
    exact if_pos hpath
  rw [target, hread]
  simp only [hheader, ↓reduceIte, Http.Uri.text_of_path _ route.head?_path]

end Client

end Rpc

end VcpuPinning
