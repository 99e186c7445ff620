import Mathlib.Data.List.TakeWhile
import PipedShell.Service

/-!
# What the service relies on

The framework that brings requests to the service is not part of it.  This file names what the
service relies on of that framework, each as a property of a gateway, so that every theorem about
the service can say what it needs.  Nothing is said of what does not matter to the service, such as
which bodies count as JSON.

* `Gateway.Sends` — values made of texts, integers and truth values (`Json.Plain`) can be sent.
* `Gateway.Routes` — an operation is found at its path with its method.
* `Gateway.KeepsLimits` — orders are read within the limits of the settings.
* `Gateway.AnswersPlainly` — what the framework answers on its own is a detail and no data.
* `Gateway.Reads` — the ways in which a gateway comes to read a call as it does.
* `sends_standard`, `routes_standard`, `keepsLimits_standard`, `answersPlainly_standard` — the
  standard gateway is such a framework.
-/

namespace PipedShell

/-! ## Values that can be sent -/

namespace Json

lemma isSurrogate_toNat (c : Char) : isSurrogate c.toNat = false := by
  have hvalid : c.toNat < 0xd800 ∨ 0xdfff < c.toNat ∧ c.toNat < 0x110000 := c.valid
  simp only [isSurrogate, isHighSurrogate, isLowSurrogate, Bool.or_eq_false_iff,
    Bool.and_eq_false_iff, decide_eq_false_iff_not]
  omega

/-- No half of a surrogate pair is among the code points. -/
def NoHalves (codes : List Nat) : Prop := ∀ n ∈ codes, isSurrogate n = false

lemma NoHalves.append {codes others : List Nat} (h : NoHalves codes) (h' : NoHalves others) :
    NoHalves (codes ++ others) := by
  intro n hn
  exact (List.mem_append.1 hn).elim (h n) (h' n)

lemma noHalves_textCodes (text : Text) : NoHalves (textCodes text) := by
  intro n hn
  obtain ⟨c, -, rfl⟩ := List.mem_map.1 hn
  exact isSurrogate_toNat c

lemma noHalves_stringCodes (text : Text) : NoHalves (stringCodes (textCodes text)) := by
  have hbody : NoHalves ((textCodes text).flatMap escapedCode) := by
    intro n hn
    obtain ⟨code, hcode, hn⟩ := List.mem_flatMap.1 hn
    simp only [escapedCode] at hn
    split at hn
    · exact noHalves_textCodes _ n hn
    · split_ifs at hn
      · exact noHalves_textCodes _ n hn
      · rw [List.mem_singleton.1 hn]
        exact noHalves_textCodes text code hcode
  exact ((noHalves_textCodes _).append hbody).append (noHalves_textCodes _)

lemma noHalves_itemCodes {items : List Json} (h : ∀ item ∈ items, NoHalves item.codes) :
    NoHalves (itemCodes items) := by
  induction items with
  | nil => exact noHalves_textCodes []
  | cons item items ih =>
      have hfirst := h item (by simp)
      cases items with
      | nil => simpa [itemCodes] using hfirst
      | cons next items =>
          have hrest := ih fun i hi => h i (by simp [hi])
          rw [itemCodes]
          · exact (hfirst.append (noHalves_textCodes _)).append hrest
          · simp

lemma noHalves_memberCodes {members : List (Text × Json)}
    (h : ∀ member ∈ members, NoHalves member.2.codes) : NoHalves (memberCodes members) := by
  have hmember : ∀ member ∈ members,
      NoHalves (stringCodes (textCodes member.1) ++ textCodes ":" ++ member.2.codes) :=
    fun member hmem =>
      ((noHalves_stringCodes _).append (noHalves_textCodes _)).append (h member hmem)
  induction members with
  | nil => exact noHalves_textCodes []
  | cons member members ih =>
      have hfirst := hmember member (by simp)
      cases members with
      | nil => simpa [memberCodes] using hfirst
      | cons next members =>
          have hrest := ih (fun m hm => h m (by simp [hm])) fun m hm => hmember m (by simp [hm])
          rw [memberCodes]
          · exact (hfirst.append (noHalves_textCodes _)).append hrest
          · simp

lemma areFinite_of_forall {items : List Json} (h : ∀ item ∈ items, item.isFinite = true) :
    areFinite items = true := by
  induction items with
  | nil => rfl
  | cons item items ih => simp_all [areFinite]

lemma membersAreFinite_of_forall {members : List (Text × Json)}
    (h : ∀ member ∈ members, member.2.isFinite = true) : membersAreFinite members = true := by
  induction members with
  | nil => rfl
  | cons member members ih => simp_all [membersAreFinite]

/-- A value made of texts, integers and truth values. -/
inductive Plain : Json → Prop
  | str (text : Text) : Plain (.str text)
  | int (value : Int) : Plain (.int value)
  | bool (value : Bool) : Plain (.bool value)
  | arr {items : List Json} (plain : ∀ item ∈ items, Plain item) : Plain (.arr items)
  | obj {members : List (Text × Json)} (plain : ∀ member ∈ members, Plain member.2) :
      Plain (.obj members)

namespace Plain

lemma noHalves {value : Json} (h : value.Plain) : NoHalves value.codes := by
  induction h with
  | str text =>
      rw [codes]
      exact noHalves_stringCodes text
  | int value => exact noHalves_textCodes _
  | bool value => cases value <;> exact noHalves_textCodes _
  | arr _ ih =>
      rw [codes]
      exact ((noHalves_textCodes _).append (noHalves_itemCodes ih)).append (noHalves_textCodes _)
  | obj _ ih =>
      rw [codes]
      exact ((noHalves_textCodes _).append (noHalves_memberCodes ih)).append (noHalves_textCodes _)

lemma isFinite {value : Json} (h : value.Plain) : value.isFinite = true := by
  induction h with
  | arr _ ih =>
      rw [Json.isFinite]
      exact areFinite_of_forall ih
  | obj _ ih =>
      rw [Json.isFinite]
      exact membersAreFinite_of_forall ih
  | _ => rfl

lemma sendingDefect?_eq_none {value : Json} (h : value.Plain) : value.sendingDefect? = none := by
  have hall : (value.codes.dropWhile fun n => !isSurrogate n) = [] := by
    rw [List.dropWhile_eq_nil_iff]
    intro n hn
    simp [h.noHalves n hn]
  simp [sendingDefect?, h.isFinite, hall]

lemma nil : Plain (.obj []) := .obj (by simp)

lemma cons {name : Text} {value : Json} {members : List (Text × Json)} (h : value.Plain)
    (hmembers : Plain (.obj members)) : Plain (.obj ((name, value) :: members)) := by
  cases hmembers with
  | obj hplain => exact .obj (List.forall_mem_cons.2 ⟨h, hplain⟩)

end Plain

end Json

/-! ## The properties of a gateway -/

/-- The response is a plain detail, or has no body of JSON at all. -/
def Response.IsDetail (response : Response) : Prop :=
  response.body? = none ∨ ∃ detail, response.body? = some (.obj [("detail", detail)])

/-- The texts of the order have as many characters as the settings allow. -/
structure Order.Fits (config : Config) (order : Order) : Prop where
  not_empty : 1 ≤ order.command.length
  command : (order.command.length : Int) ≤ config.maxInputChars
  stdin : (order.stdin.length : Int) ≤ config.maxOutputBytes

namespace Gateway

/-- Values made of texts, integers and truth values can be sent. -/
def Sends (gateway : Gateway) : Prop :=
  ∀ value : Json, value.Plain → gateway.sendingDefect? value = none

/-- An operation is found where its method and its path are, and nowhere else. -/
def Routes (gateway : Gateway) : Prop :=
  ∀ call route, gateway.route call = .ok route ↔ call.IsFor route

/-- An order that is read has the lengths that its fields are declared with. -/
def KeepsLimits (config : Config) (gateway : Gateway) : Prop :=
  ∀ call order, gateway.readOrder call = .ok order → order.Fits config

/-- What the framework answers on its own carries no data.  A body that it cannot read makes a bad
request. -/
structure AnswersPlainly (gateway : Gateway) : Prop where
  route : ∀ call response, gateway.route call = .error response → response.IsDetail
  client : ∀ call response, gateway.readClient call = .error (.answered response) →
    response.IsDetail
  order : ∀ call response, gateway.readOrder call = .error (.answered response) →
    response.status = 400 ∧ response.IsDetail

end Gateway

/-! ## How a call is read -/

namespace Gateway

/-- What a gateway can read a call as, with what it took it from. -/
inductive Reads (gateway : Gateway) (call : Call) : Except Rejection Act → Prop
  /-- The call asks for no operation. -/
  | nowhere {response : Response} (own : gateway.route call = .error response) :
      Reads gateway call (.error (.answered response))
  | health : Reads gateway call (.ok .health)
  | create {client : List (Text × Json)} (body : gateway.readClient call = .ok client) :
      Reads gateway call (.ok (.create client))
  | noClient {rejection : Rejection} (body : gateway.readClient call = .error rejection) :
      Reads gateway call (.error rejection)
  | delete : Reads gateway call (.ok (.delete call.authorization))
  | commands : Reads gateway call (.ok (.commands call.authorization))
  | run {order : Order} (body : gateway.readOrder call = .ok order) :
      Reads gateway call (.ok (.run call.authorization order))
  | noOrder {rejection : Rejection} (body : gateway.readOrder call = .error rejection) :
      Reads gateway call (.error rejection)

lemma reads (gateway : Gateway) (call : Call) : gateway.Reads call (gateway.read call) := by
  rw [read]
  cases hroute : gateway.route call with
  | error response => exact .nowhere hroute
  | ok route =>
      cases route with
      | health => exact .health
      | create =>
          cases hclient : gateway.readClient call with
          | error rejection => exact .noClient hclient
          | ok client => exact .create hclient
      | delete => exact .delete
      | commands => exact .commands
      | run =>
          cases horder : gateway.readOrder call with
          | error rejection => exact .noOrder horder
          | ok order => exact .run horder

end Gateway

/-! ## The standard gateway has the properties -/

lemma Call.IsFor.unique {call : Call} {route other : Route} (h : call.IsFor route)
    (h' : call.IsFor other) : route = other := by
  have hmethod := h.1.trans h'.1.symm
  have hpath := h.2.trans h'.2.symm
  revert hmethod hpath
  cases route <;> cases other <;> decide

namespace Standard

variable {config : Config} {nullIsNone : Bool} {call : Call}

lemma isDetail_detail (status : Nat) (text : Text) : (detail status text).IsDetail :=
  .inr ⟨.str text, rfl⟩

/-- A text is within its bounds, unless it is left out. -/
lemma length_of_readText {name : Text} {standard : Option Text} {least most : Nat} {value : Json}
    {text : Text} (h : readText name standard least most value = .ok text) :
    standard = some text ∨ least ≤ text.length ∧ text.length ≤ most := by
  cases hgiven : value.member? name with
  | none =>
      cases standard with
      | none => simp [readText, hgiven] at h
      | some other =>
          simp only [readText, hgiven, Except.ok.injEq] at h
          exact .inl (congrArg some h)
  | some given =>
      right
      simp only [readText, hgiven] at h
      cases htext : Field.text given with
      | error fault => simp [htext, Except.bind, Except.mapError] at h
      | ok found =>
          simp only [htext, Except.bind, Field.sized] at h
          split_ifs at h with hshort hlong <;> cases h
          exact ⟨Nat.not_lt.1 hshort, Nat.not_lt.1 hlong⟩

lemma fits_of_readOrder {order : Order} (hbytes : 0 ≤ config.maxOutputBytes)
    (h : readOrder config nullIsNone call = .ok order) : order.Fits config := by
  rw [readOrder] at h
  split at h
  · cases h
  · cases h
  · split at h <;> cases h
    next command stdin hcommand hstdin =>
      obtain ⟨hleast, hmost⟩ := (length_of_readText hcommand).resolve_left (by simp)
      have hfits : (command.length : Int) ≤ config.maxInputChars := by omega
      refine ⟨hleast, hfits, ?_⟩
      rcases length_of_readText hstdin with hnone | ⟨-, hmost⟩
      · cases hnone
        exact hbytes
      · have hfits : (stdin.length : Int) ≤ config.maxOutputBytes := by omega
        exact hfits
  · cases h

/-- The framework answers on its own only to a body that is beyond what is read. -/
lemma eq_unreadable_of_readJson {body : Text} {response : Response}
    (h : readJson body = .error (.answered response)) : .answered response = unreadable := by
  rw [readJson] at h
  split_ifs at h
  split at h
  · exact (Except.error.inj h).symm
  · split at h
    · cases h
    · cases Except.error.inj h
    · exact (Except.error.inj h).symm
    · exact (Except.error.inj h).symm

lemma eq_unreadable_of_readBody {response : Response}
    (h : readBody nullIsNone call = .error (.answered response)) :
    .answered response = unreadable := by
  cases hread : readJson call.body with
  | ok value => simp [readBody, hread, Except.map] at h
  | error rejection =>
      simp only [readBody, hread, Except.map, Except.error.injEq] at h
      exact eq_unreadable_of_readJson (hread.trans (congrArg _ h))

end Standard

namespace Gateway

variable (config : Config) (nullIsNone : Bool)

lemma sends_standard : (standard config nullIsNone).Sends :=
  fun _ hplain => hplain.sendingDefect?_eq_none

lemma routes_standard : (standard config nullIsNone).Routes := by
  intro call route
  change Standard.route call = .ok route ↔ call.IsFor route
  rw [Standard.route]
  split
  · next found hfound =>
      have hfor : call.IsFor found := by simpa using List.find?_some hfound
      constructor
      · rintro ⟨⟩
        exact hfor
      · exact fun h => congrArg _ (hfor.unique h)
  · next hnone =>
      constructor
      · intro h
        split_ifs at h
      · intro h
        have hmem : route ∈ Route.all := by cases route <;> decide
        exact absurd (decide_eq_true h) (List.find?_eq_none.1 hnone route hmem)

lemma keepsLimits_standard {config : Config} (hbytes : 0 ≤ config.maxOutputBytes) :
    (standard config nullIsNone).KeepsLimits config :=
  fun _ _ h => Standard.fits_of_readOrder hbytes h

lemma answersPlainly_standard : (standard config nullIsNone).AnswersPlainly where
  route := by
    intro call response h
    change Standard.route call = .error response at h
    rw [Standard.route] at h
    split at h
    · cases h
    · split_ifs at h <;> cases h
      · exact Standard.isDetail_detail _ _
      · exact .inl rfl
      · exact Standard.isDetail_detail _ _
  client := by
    intro call response h
    change Standard.readClient nullIsNone call = .error (.answered response) at h
    rw [Standard.readClient] at h
    split at h
    · next hread =>
        cases h
        cases Standard.eq_unreadable_of_readBody hread
        exact Standard.isDetail_detail _ _
    · cases h
    · simp only at h
      split at h <;> cases h
    · cases h
  order := by
    intro call response h
    change Standard.readOrder config nullIsNone call = .error (.answered response) at h
    rw [Standard.readOrder] at h
    split at h
    · next hread =>
        cases h
        cases Standard.eq_unreadable_of_readBody hread
        exact ⟨rfl, Standard.isDetail_detail _ _⟩
    · cases h
    · split at h <;> cases h
    · cases h

end Gateway

end PipedShell
