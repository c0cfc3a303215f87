import Libssh.Bytes
import Libssh.Buffer
import Libssh.Mbedtls
import Libssh.Cipher.Struct
import Libssh.Cipher.Block
import Libssh.Cipher.Gcm
import Libssh.Cipher.Chacha
import Libssh.Cipher.Aead
import Libssh.Cipher.Table
import Libssh.Cipher.KeySetup
import Libssh.Cipher.Stream
import Libssh.Pki.External
import Libssh.Pki.Container
import Libssh.Pki.Import
import Libssh.Pki.Export
import Libssh.Pki.Soundness
import Libssh.Pki.Padding
import Libssh.Pki.Secrets
