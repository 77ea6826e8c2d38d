import TrustyKeymaster.Basic
import TrustyKeymaster.Authorizations
import TrustyKeymaster.Library
import TrustyKeymaster.Reference
import TrustyKeymaster.KeyBlob
import TrustyKeymaster.Upgrade
import TrustyKeymaster.Rng
import TrustyKeymaster.Unwrap
import TrustyKeymaster.Attestation
import TrustyKeymaster.Lifecycle
import TrustyKeymaster.Machine
import TrustyKeymaster.Sessions
import TrustyKeymaster.Reachable
import TrustyKeymaster.KeyLifetime
