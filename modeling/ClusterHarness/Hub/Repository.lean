import ClusterHarness.Resource.Codec

/-!
# Repositories and pull requests

What a code hosting service reports of them.
-/

namespace ClusterHarness

open Parts

structure Repository where
  name : String
  fullName : String
  htmlUrl : String
  createdAt : Timestamp

def Repository.codec : Codec Repository := Codec.record <|
  make Repository.mk
  |>.and (required "name" Codec.text (·.name))
  |>.and (defaulted "full_name" Codec.text "" (·.fullName))
  |>.and (defaulted "html_url" Codec.text "" (·.htmlUrl))
  |>.and (required "created_at" Codec.timestamp (·.createdAt))

structure Account where
  login : String
  deriving DecidableEq, Repr

def Account.codec : Codec Account := Codec.record <|
  make Account.mk |>.and (required "login" Codec.text (·.login))

structure SourceRepository where
  name : String
  owner : Account
  deriving DecidableEq, Repr

def SourceRepository.codec : Codec SourceRepository := Codec.record <|
  make SourceRepository.mk
  |>.and (required "name" Codec.text (·.name))
  |>.and (required "owner" Account.codec (·.owner))

/-- The branch a pull request comes from; its repository may have been deleted. -/
structure PullRequestHead where
  branch : String
  sha : String
  repository : Option SourceRepository
  deriving DecidableEq, Repr

def PullRequestHead.codec : Codec PullRequestHead := Codec.record <|
  make PullRequestHead.mk
  |>.and (required "ref" Codec.text (·.branch))
  |>.and (required "sha" Codec.text (·.sha))
  |>.and (maybe "repo" SourceRepository.codec (·.repository))

structure PullRequest where
  number : Nat
  user : Account
  head : PullRequestHead
  deriving DecidableEq, Repr

/-- Numbers of 64 bits. -/
def Codec.count : Codec Nat where
  read j := ((Codec.integer 0 18446744073709551615).read j).map Int.toNat
  write n := .int n

def PullRequest.codec : Codec PullRequest := Codec.record <|
  make PullRequest.mk
  |>.and (required "number" Codec.count (·.number))
  |>.and (required "user" Account.codec (·.user))
  |>.and (required "head" PullRequestHead.codec (·.head))

end ClusterHarness
