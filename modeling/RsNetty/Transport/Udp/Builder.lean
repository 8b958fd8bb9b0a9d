import RsNetty.Transport.Udp.Socket

/-!
# The builders of UDP sockets

`UdpServer` and `UdpClient` with the settings of the receive side. Each setter normalizes the
configuration, and so do `UdpServer::start` and `UdpClient::run` before they hand it to the task.
-/

namespace RsNetty

/-- `UdpSocketConfig::normalize` -/
def UdpSocketConfig.normalize (config : UdpSocketConfig) : UdpSocketConfig :=
  let maxDatagramSize := max config.maxDatagramSize 1
  let readBufferCapacity := max (max config.readBufferCapacity maxDatagramSize) 1
  { readBufferCapacity, maxDatagramSize }

/-- What the setters `read_buffer_capacity` of both builders do. -/
def UdpSocketConfig.setReadBufferCapacity (config : UdpSocketConfig) (value : Nat) :
    UdpSocketConfig :=
  { config with readBufferCapacity := value }.normalize

/-- What the setters `max_datagram_size` of both builders do. -/
def UdpSocketConfig.setMaxDatagramSize (config : UdpSocketConfig) (value : Nat) :
    UdpSocketConfig :=
  { config with maxDatagramSize := value }.normalize

/-- The configuration of a `UdpServer`. -/
structure UdpServer where
  config : UdpSocketConfig

namespace UdpServer
variable {P : DatagramStages}

def bind : UdpServer := ⟨{}⟩

def readBufferCapacity (server : UdpServer) (value : Nat) : UdpServer :=
  ⟨server.config.setReadBufferCapacity value⟩

def maxDatagramSize (server : UdpServer) (value : Nat) : UdpServer :=
  ⟨server.config.setMaxDatagramSize value⟩

/-- The task that `start` spawns once it has bound the socket. -/
def start (server : UdpServer) (localAddr : SocketAddr) (socket : UdpSocket)
    (pipeline : DatagramPipeline P) : DatagramSocketRuntime P :=
  .new 1 localAddr socket pipeline server.config.normalize

end UdpServer

/-- The configuration of a `UdpClient`. -/
structure UdpClient where
  config : UdpSocketConfig

namespace UdpClient
variable {P : DatagramStages}

def connect : UdpClient := ⟨{}⟩

def readBufferCapacity (client : UdpClient) (value : Nat) : UdpClient :=
  ⟨client.config.setReadBufferCapacity value⟩

def maxDatagramSize (client : UdpClient) (value : Nat) : UdpClient :=
  ⟨client.config.setMaxDatagramSize value⟩

/-- The task that `run` spawns once it has bound the socket. -/
def run (client : UdpClient) (localAddr : SocketAddr) (socket : UdpSocket)
    (pipeline : DatagramPipeline P) : DatagramSocketRuntime P :=
  .new 1 localAddr socket pipeline client.config.normalize

end UdpClient

/-- A call of one of the two setters. -/
inductive SizeCall where
  | readBufferCapacity (value : Nat)
  | maxDatagramSize (value : Nat)

def UdpServer.call (server : UdpServer) : SizeCall → UdpServer
  | .readBufferCapacity value => server.readBufferCapacity value
  | .maxDatagramSize value => server.maxDatagramSize value

def UdpClient.call (client : UdpClient) : SizeCall → UdpClient
  | .readBufferCapacity value => client.readBufferCapacity value
  | .maxDatagramSize value => client.maxDatagramSize value

inductive UdpBuilder where
  | server
  | client

namespace UdpBuilder
variable {P : DatagramStages}

/-- The configuration of a builder after the calls. -/
def config (builder : UdpBuilder) (calls : List SizeCall) : UdpSocketConfig :=
  match builder with
  | .server => (calls.foldl UdpServer.call .bind).config
  | .client => (calls.foldl UdpClient.call .connect).config

/-- The task that a builder spawns after the calls. -/
def spawn (builder : UdpBuilder) (calls : List SizeCall) (localAddr : SocketAddr)
    (socket : UdpSocket) (pipeline : DatagramPipeline P) : DatagramSocketRuntime P :=
  match builder with
  | .server => (calls.foldl UdpServer.call .bind).start localAddr socket pipeline
  | .client => (calls.foldl UdpClient.call .connect).run localAddr socket pipeline

end UdpBuilder

end RsNetty
