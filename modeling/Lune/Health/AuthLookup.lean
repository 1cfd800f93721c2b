import Lune.Health.Binding

/-!
# The entry of an account in the runtime's list

`findAuthMetadata` looks an account key up in a map that all entries of the list
fill, each under its ID, its name and a key made of its provider, email and plan.  A
later entry takes a key from an earlier one, so the key of an account can end up
with another entry: one that merely has the provider, email and plan the key is
spelled with.
-/

namespace Lune.Health

open GoText Keyed

/-- The ID or the name of the entry is the key, apart from `.json`. -/
def AuthFile.HasKey (f : AuthFile) (key : Str) : Prop :=
  trimSuffix f.id (lit ".json") = key ∨ trimSuffix f.name (lit ".json") = key

instance (f : AuthFile) (key : Str) : Decidable (f.HasKey key) := inferInstanceAs (Decidable (_ ∨ _))

/-- The provider, the email and the plan of the entry spell the key. -/
def AuthFile.Derives (f : AuthFile) (key : Str) : Prop :=
  let provider := if f.provider = [] then f.type else f.provider
  let plan := if f.planType = [] then lit "unknown" else f.planType
  (provider ≠ [] ∧ f.email ≠ []) ∧
    trimSuffix (trimSpace (provider ++ lit "-" ++ f.email ++ lit "-" ++ plan)) (lit ".json") = key

instance (f : AuthFile) (key : Str) : Decidable (f.Derives key) := inferInstanceAs (Decidable (_ ∧ _))

/-- The entry has an index and is listed under the key: by its ID or its name without
the blanks around them, or by what it derives. -/
def AuthFile.Claims (f : AuthFile) (key : Str) : Prop :=
  f.authIndex ≠ [] ∧ key ≠ [] ∧
    (trimSuffix (trimSpace f.id) (lit ".json") = key ∨
      trimSuffix (trimSpace f.name) (lit ".json") = key ∨ f.Derives key)

instance (f : AuthFile) (key : Str) : Decidable (f.Claims key) :=
  inferInstanceAs (Decidable (_ ∧ _))

theorem mem_authFileCandidateKeys {f : AuthFile} {key : Str} :
    key ∈ authFileCandidateKeys f ↔ key ≠ [] ∧
      (trimSuffix (trimSpace f.id) (lit ".json") = key ∨
        trimSuffix (trimSpace f.name) (lit ".json") = key ∨ f.Derives key) := by
  have hderived (c : Prop) [Decidable c] (k : Str) :
      key ∈ (if c then [k] else []) ↔ c ∧ k = key := by
    by_cases hc : c
    · simp [hc, eq_comm]
    · simp [hc]
  unfold authFileCandidateKeys AuthFile.Derives
  dsimp only
  rw [List.mem_eraseDups, List.mem_filter, List.mem_append, hderived]
  constructor
  · rintro ⟨hkeys, hne⟩
    refine ⟨of_decide_eq_true hne, ?_⟩
    rcases hkeys with hlisted | hderives
    · rcases List.mem_pair.mp hlisted with hid | hname
      · exact Or.inl hid.symm
      · exact Or.inr (Or.inl hname.symm)
    · exact Or.inr (Or.inr hderives)
  · rintro ⟨hne, hid | hname | hderives⟩
    · exact ⟨Or.inl (List.mem_pair.mpr (Or.inl hid.symm)), decide_eq_true hne⟩
    · exact ⟨Or.inl (List.mem_pair.mpr (Or.inr hname.symm)), decide_eq_true hne⟩
    · exact ⟨Or.inr hderives, decide_eq_true hne⟩

theorem claims_iff {f : AuthFile} {key : Str} :
    f.Claims key ↔ f.authIndex ≠ [] ∧ key ∈ authFileCandidateKeys f := by
  rw [mem_authFileCandidateKeys]
  rfl

/-! ## The last entry that claims a key -/

theorem get?_foldl_keys (keys : List Str) (v : AuthFileMetadata) (m : GoMap Str AuthFileMetadata)
    (key : Str) :
    (keys.foldl (fun (m : GoMap Str AuthFileMetadata) k => m.put k v) m).get? key =
      if key ∈ keys then some v else m.get? key := by
  induction keys generalizing m with
  | nil => simp
  | cons k keys ih =>
    rw [List.foldl_cons, ih, GoMap.get?_put]
    by_cases hmem : key ∈ keys
    · simp [hmem]
    · by_cases hk : k = key
      · simp [hk]
      · simp [hmem, hk, Ne.symm hk]

/-- A key of the list belongs to the last entry that claims it. -/
theorem get?_listAuthMetadata (files : List AuthFile) (key : Str) :
    (listAuthMetadata files).get? key =
      (files.reverse.find? fun f => f.Claims key).map authFileMetadata := by
  induction files using List.reverseRecOn with
  | nil => rfl
  | append_singleton files f ih =>
    unfold listAuthMetadata at ih ⊢
    rw [List.filter_append, List.foldl_append, List.reverse_append, List.reverse_singleton,
      List.singleton_append, List.find?_cons]
    by_cases hindex : f.authIndex = []
    · have hnone : ¬ f.Claims key := fun h => h.1 hindex
      simpa [hindex, hnone] using ih
    · by_cases hkey : key ∈ authFileCandidateKeys f
      · have hclaims : f.Claims key := claims_iff.mpr ⟨hindex, hkey⟩
        simp [hindex, get?_foldl_keys, hkey, hclaims]
      · have hnone : ¬ f.Claims key := fun h => hkey (claims_iff.mp h).2
        simpa [hindex, get?_foldl_keys, hkey, hnone] using ih

theorem claims_of_find? {files : List AuthFile} {key : Str} {f : AuthFile}
    (h : (files.find? fun f => f.Claims key) = some f) : f.Claims key := by
  have := List.find?_some h
  simpa using this

theorem findAuthMetadata_eq (files : List AuthFile) (key : Str) :
    findAuthMetadata (.ok files) key =
      match files.reverse.find? fun f => f.Claims key with
      | none => .error authIndexNotReady
      | some f => .ok (authFileMetadata f) := by
  unfold findAuthMetadata
  dsimp only
  rw [get?_listAuthMetadata]
  cases hlast : files.reverse.find? fun f => f.Claims key with
  | none => rfl
  | some f =>
    have hclaims : f.Claims key := claims_of_find? hlast
    rw [Option.map_some]
    exact if_neg hclaims.1

/-- What is found is the metadata of an entry that claims the key. -/
theorem exists_of_findAuthMetadata {files : List AuthFile} {key : Str} {found : AuthFileMetadata}
    (h : findAuthMetadata (.ok files) key = .ok found) :
    ∃ f ∈ files, f.Claims key ∧ authFileMetadata f = found := by
  rw [findAuthMetadata_eq] at h
  cases hlast : files.reverse.find? fun f => f.Claims key with
  | none =>
    rw [hlast] at h
    contradiction
  | some f =>
    rw [hlast] at h
    exact ⟨f, List.mem_reverse.mp (List.mem_of_find?_eq_some hlast),
      claims_of_find? hlast, Except.ok.inj h⟩

/-- An entry that claims the key and comes last is the one found. -/
theorem findAuthMetadata_concat {files : List AuthFile} {f : AuthFile} {key : Str}
    (h : f.Claims key) : findAuthMetadata (.ok (files ++ [f])) key = .ok (authFileMetadata f) := by
  rw [findAuthMetadata_eq, List.reverse_append, List.reverse_singleton, List.singleton_append,
    List.find?_cons, decide_eq_true h]

/-! ## Every order of the list -/

/-- The lookup finds the entry in whatever order the list comes. -/
def FoundInEveryOrder (f : AuthFile) (others : List AuthFile) (key : Str) : Prop :=
  ∀ files : List AuthFile, files.Perm (f :: others) →
    findAuthMetadata (.ok files) key = .ok (authFileMetadata f)

/-- The entry is found in every order exactly when some entry claims the key and all
that do carry its metadata. -/
theorem foundInEveryOrder_iff (f : AuthFile) (others : List AuthFile) (key : Str) :
    FoundInEveryOrder f others key ↔
      (∃ g ∈ f :: others, g.Claims key) ∧
        ∀ g ∈ f :: others, g.Claims key → authFileMetadata g = authFileMetadata f := by
  constructor
  · intro h
    obtain ⟨g, hg, hclaims, -⟩ := exists_of_findAuthMetadata (h _ (List.Perm.refl _))
    refine ⟨⟨g, hg, hclaims⟩, fun g hg hclaims => ?_⟩
    obtain ⟨before, after, hsplit⟩ := List.append_of_mem hg
    have hlast : (before ++ after ++ [g]).Perm (f :: others) := by
      rw [hsplit, List.append_assoc]
      exact List.Perm.append_left before (List.perm_append_singleton g after)
    have hfound := h _ hlast
    rw [findAuthMetadata_concat hclaims] at hfound
    exact Except.ok.inj hfound
  · rintro ⟨⟨g, hg, hclaims⟩, hsame⟩ files hperm
    rw [findAuthMetadata_eq]
    cases hlast : files.reverse.find? fun f => f.Claims key with
    | none =>
      have hnone := List.find?_eq_none.mp hlast g (List.mem_reverse.mpr (hperm.mem_iff.mpr hg))
      exact absurd (decide_eq_true hclaims) hnone
    | some g' =>
      have hmem := hperm.mem_iff.mp (List.mem_reverse.mp (List.mem_of_find?_eq_some hlast))
      exact congrArg Except.ok (hsame g' hmem (claims_of_find? hlast))

/-- The entry has an index and is the only such one whose ID or name is the key. -/
structure AuthFile.Owns (f : AuthFile) (others : List AuthFile) (key : Str) : Prop where
  indexed : f.authIndex ≠ []
  hasKey : f.HasKey key
  only : ∀ g ∈ others, g.authIndex ≠ [] → ¬ g.HasKey key

/-- The only entry whose ID or name is the key is found whatever order the list comes in
exactly when some entry claims the key, and every other one that claims it carries the
same metadata.  Blanks around an ID keep its entry from claiming it, and an entry that
derives the key claims it as well as the owner does. -/
theorem owner_found_iff (f : AuthFile) (others : List AuthFile) (key : Str) :
    (f.Owns others key → FoundInEveryOrder f others key) ↔
      (f.Owns others key →
        (∃ g ∈ f :: others, g.Claims key) ∧
          ∀ g ∈ others, g.Claims key → authFileMetadata g = authFileMetadata f) := by
  refine imp_congr_right fun _ => ?_
  rw [foundInEveryOrder_iff, List.forall_mem_cons]
  constructor
  · rintro ⟨hclaimed, -, hsame⟩
    exact ⟨hclaimed, hsame⟩
  · rintro ⟨hclaimed, hsame⟩
    exact ⟨hclaimed, fun _ => rfl, hsame⟩

/-- A credential file under its name. -/
def ownFile : AuthFile :=
  { id := lit "codex-a@b.c-plus.json", authIndex := lit "1" }

/-- A credential with the provider, email and plan that spell the name of `ownFile`. -/
def sameMailbox : AuthFile :=
  { id := lit "other.json", authIndex := lit "2", provider := lit "codex", email := lit "a@b.c",
    planType := lit "plus" }

/-- The credential listed last takes the key from the one it is the name of. -/
theorem other_file_found :
    ¬ ∀ (f : AuthFile) (others : List AuthFile) (key : Str),
      f.Owns others key → FoundInEveryOrder f others key := by
  intro h
  have howns : ownFile.Owns [sameMailbox] (lit "codex-a@b.c-plus") :=
    ⟨by decide, by decide +kernel, by decide +kernel⟩
  have hfound := h _ _ _ howns _ (List.Perm.refl _)
  have hother : findAuthMetadata (.ok [ownFile, sameMailbox]) (lit "codex-a@b.c-plus") =
      .ok (authFileMetadata sameMailbox) :=
    @findAuthMetadata_concat [ownFile] _ _ (by decide +kernel)
  have hindex := congrArg AuthFileMetadata.authIndex (Except.ok.inj (hother.symm.trans hfound))
  revert hindex
  decide

end Lune.Health
