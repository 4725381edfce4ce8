import SearchAppliance.Proofs.Identity
import SearchAppliance.Proofs.Text.Cut

namespace SearchAppliance.NodeSettings

variable {host other : String}

/-- The digest of the name of a host, in nine bytes. -/
def hostDigest (host : String) : List UInt8 := Hash.Blake2b.digest 9 host.toUTF8.toList

theorem length_hostDigest (host : String) : (hostDigest host).length = 9 := by
  rw [hostDigest, Hash.Blake2b.length_digest]
  rfl

theorem toList_defaultNode (host : String) :
    (defaultNode host).toList = Text.Base64Url.encode (hostDigest host) :=
  String.toList_ofList

theorem length_defaultNode (host : String) : (defaultNode host).length = 12 := by
  rw [← String.length_toList, toList_defaultNode, Text.Base64Url.length_encode, length_hostDigest]

/-- Nine bytes fill three groups, so that no `=` is needed. -/
theorem mem_defaultNode {c : Char} (h : c ∈ (defaultNode host).toList) :
    c.isAlphanum = true ∨ c = '-' ∨ c = '_' := by
  have hgroups : (hostDigest host).length % 3 = 0 := by rw [length_hostDigest]
  rw [toList_defaultNode] at h
  exact Text.Base64Url.isSome_value?.mp (Text.Base64Url.isSome_of_mem_encode hgroups h)

theorem not_mem_defaultNode {c : Char} (h : Text.Base64Url.value? c = none) (host : String) :
    c ∉ (defaultNode host).toList := by
  intro hm
  have hletter := Text.Base64Url.isSome_value?.mpr (mem_defaultNode hm)
  rw [h] at hletter
  cases hletter

theorem decode?_defaultNode (host : String) :
    Text.Base64Url.decode? (defaultNode host).toList = some (hostDigest host) :=
  Text.Base64Url.decode?_eq_some.mpr (toList_defaultNode host)

theorem defaultNode_inj :
    defaultNode host = defaultNode other ↔ hostDigest host = hostDigest other := by
  constructor
  · intro h
    have hbytes := decode?_defaultNode host
    rw [h, decode?_defaultNode] at hbytes
    exact (Option.some.inj hbytes).symm
  · intro h
    rw [← String.toList_inj, toList_defaultNode, toList_defaultNode, h]

theorem toList_identity (settings : NodeSettings) :
    settings.identity.toList = settings.release.toList ++ '/' :: settings.node.toList := by
  have htext : settings.identity = settings.release ++ "/" ++ settings.node := rfl
  rw [htext, String.toList_append, String.toList_append, List.append_assoc]
  rfl

/-- By default a node has a name of twelve letters, digits, hyphens and underscores, whatever its
host. These stand for the nine bytes of the digest of the host, so that hosts share a name only if
they share the digest. With such a name an identity says what the release is, too. -/
theorem defaultNode_shape (host : String) :
    (defaultNode host).length = 12 ∧
      (∀ c ∈ (defaultNode host).toList, c.isAlphanum = true ∨ c = '-' ∨ c = '_') ∧
      '=' ∉ (defaultNode host).toList ∧ '/' ∉ (defaultNode host).toList ∧
      Hash.Blake2b.IsDigest 9 host.toUTF8.toList (hostDigest host) ∧
      (hostDigest host).length = 9 ∧
      Text.Base64Url.decode? (defaultNode host).toList = some (hostDigest host) ∧
      ∀ other : String,
        (defaultNode host = defaultNode other ↔ hostDigest host = hostDigest other) ∧
        ∀ release release' : String,
          identity ⟨release, defaultNode host⟩ = identity ⟨release', defaultNode other⟩ ↔
            release = release' ∧ defaultNode host = defaultNode other := by
  have hslash (host : String) : '/' ∉ (defaultNode host).toList :=
    not_mem_defaultNode (by decide) host
  refine ⟨length_defaultNode host, fun c hc => mem_defaultNode hc,
    not_mem_defaultNode Text.Base64Url.value?_padding host, hslash host,
    Hash.Blake2b.isDigest_digest (by decide) _, length_hostDigest host, decode?_defaultNode host, ?_⟩
  intro other
  refine ⟨defaultNode_inj, ?_⟩
  intro release release'
  rw [← String.toList_inj, toList_identity, toList_identity,
    Text.append_stop_inj (hslash host) (hslash other), String.toList_inj, String.toList_inj]

example : defaultNode "oracle-host" = "0eJWgIILIyMr" := by decide +kernel

end SearchAppliance.NodeSettings
