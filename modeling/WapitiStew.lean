import WapitiStew.Framework.Transition
import WapitiStew.Framework.History
import WapitiStew.Framework.Lists
import WapitiStew.Framework.Bytes
import WapitiStew.Framework.Stream
import WapitiStew.Framework.Throwing
import WapitiStew.Framework.Running
import WapitiStew.Framework.Ledger
import WapitiStew.Framework.Ring
import WapitiStew.Framework.Ensures
import WapitiStew.Framework.Table
import WapitiStew.Framework.Loans
import WapitiStew.Framework.Grid
import WapitiStew.Framework.Memory
import WapitiStew.Framework.Symmetry
import WapitiStew.Framework.Elimination
import WapitiStew.Framework.Projective
import WapitiStew.Framework.Rounding
import WapitiStew.Framework.Barriers
import WapitiStew.Framework.Sorting
import WapitiStew.Impl.Gef.Errors
import WapitiStew.Impl.Gef.Bin
import WapitiStew.Impl.Gef.Csv
import WapitiStew.Impl.Gef.AtomicWrite
import WapitiStew.Spec.Gef.Bin
import WapitiStew.Spec.Gef.Csv
import WapitiStew.Spec.Gef.AtomicWrite
import WapitiStew.Proof.Gef.Save
import WapitiStew.Proof.Gef.CsvRead
import WapitiStew.Proof.Gef.BinFormat
import WapitiStew.Proof.Gef.BinRead
import WapitiStew.Proof.Gef.BinRoundTrip
import WapitiStew.Proof.Gef.BinRuns
import WapitiStew.Proof.Gef.Csv
import WapitiStew.Proof.Gef.AtomicWrite
import WapitiStew.Impl.Log.AsyncLogRuntime
import WapitiStew.Spec.Log.AsyncLogRuntime
import WapitiStew.Proof.Log.LogShape
import WapitiStew.Proof.Log.LogAccounting
import WapitiStew.Proof.Log.LogBarrier
import WapitiStew.Impl.Log.LogMessageBuilder
import WapitiStew.Spec.Log.LogMessages
import WapitiStew.Proof.Log.LogMessageBuilder
import WapitiStew.Proof.Log.LogRendering
import WapitiStew.Impl.Tmr.CameraTypes
import WapitiStew.Impl.Tmr.CameraControl
import WapitiStew.Spec.Tmr.CameraControl
import WapitiStew.Proof.Tmr.CameraControl
import WapitiStew.Impl.Tmr.WebCamera
import WapitiStew.Spec.Tmr.WebCamera
import WapitiStew.Proof.Tmr.WebCamera
import WapitiStew.Impl.Tmr.CameraSession
import WapitiStew.Spec.Tmr.CameraSession
import WapitiStew.Proof.Tmr.SessionControl
import WapitiStew.Proof.Tmr.SessionHistory
import WapitiStew.Proof.Tmr.CameraSession
import WapitiStew.Impl.Tmr.V4L2Camera
import WapitiStew.Spec.Tmr.V4L2Camera
import WapitiStew.Proof.Tmr.V4L2Buffers
import WapitiStew.Proof.Tmr.V4L2Camera
import WapitiStew.Impl.Tmr.LibcameraCamera
import WapitiStew.Impl.Tmr.MediaFoundationCamera
import WapitiStew.Impl.Tmr.CameraOwnerThread
import WapitiStew.Spec.Tmr.LibcameraCamera
import WapitiStew.Spec.Tmr.MediaFoundationCamera
import WapitiStew.Spec.Tmr.CameraOwnerThread
import WapitiStew.Proof.Tmr.LibcameraRequests
import WapitiStew.Proof.Tmr.LibcameraCamera
import WapitiStew.Proof.Tmr.MediaFoundationBooks
import WapitiStew.Proof.Tmr.MediaFoundationCamera
import WapitiStew.Impl.Tmr.DirectShowRawCapture
import WapitiStew.Spec.Tmr.DirectShowRawCapture
import WapitiStew.Proof.Tmr.DirectShowRawCapture
import WapitiStew.Proof.Tmr.CameraOwnerTasks
import WapitiStew.Proof.Tmr.CameraOwnerThread
import WapitiStew.Impl.Wse.License
import WapitiStew.Spec.Wse.License
import WapitiStew.Proof.Wse.LicenseRuns
import WapitiStew.Proof.Wse.License
import WapitiStew.Impl.Wse.Timer
import WapitiStew.Spec.Wse.WorkerController
import WapitiStew.Proof.Wse.WorkerController
import WapitiStew.Proof.Wse.WorkerThreads
import WapitiStew.Proof.Wse.Timer
import WapitiStew.Impl.Wse.Map
import WapitiStew.Spec.Wse.Map
import WapitiStew.Proof.Wse.Map
import WapitiStew.Impl.Wse.Matrix
import WapitiStew.Impl.Wse.Homography
import WapitiStew.Spec.Wse.Matrix
import WapitiStew.Proof.Wse.Matrix
import WapitiStew.Proof.Wse.Homography
import WapitiStew.Impl.Wse.Image
import WapitiStew.Impl.Wse.Pixel
import WapitiStew.Impl.Wse.DataCast
import WapitiStew.Impl.Wse.ImageTransform
import WapitiStew.Impl.Wse.ImageInterleaved
import WapitiStew.Spec.Wse.Image
import WapitiStew.Proof.Wse.Image
import WapitiStew.Proof.Wse.Pixel
import WapitiStew.Proof.Wse.DataCast
import WapitiStew.Proof.Wse.ImageAverage
import WapitiStew.Proof.Wse.ImageInterleaved
import WapitiStew.Impl.Wse.ImageDemosaic
import WapitiStew.Spec.Wse.ImageDemosaic
import WapitiStew.Proof.Wse.ImageDemosaic
import WapitiStew.Impl.Wse.Range
import WapitiStew.Spec.Wse.Range
import WapitiStew.Proof.Wse.Range
import WapitiStew.Impl.Tmr.CameraFrameOps
import WapitiStew.Spec.Tmr.CameraFrameOps
import WapitiStew.Proof.Tmr.FrameRows
import WapitiStew.Proof.Tmr.CameraFrameOps
import WapitiStew.Proof.Tmr.FrameMemory
import WapitiStew.Proof.Tmr.FrameAverage
import WapitiStew.Proof.Tmr.FrameImages
import WapitiStew.Proof.Tmr.CoreImages
import WapitiStew.Proof.Tmr.CameraYuvConversion
import WapitiStew.Impl.Xpt.Deadline
import WapitiStew.Impl.Xpt.TransportError
import WapitiStew.Impl.Xpt.RetryPolicy
import WapitiStew.Impl.Xpt.HttpClient
import WapitiStew.Impl.Xpt.WaitLoops
import WapitiStew.Spec.Xpt.Deadline
import WapitiStew.Spec.Xpt.HttpClient
import WapitiStew.Proof.Xpt.Deadline
import WapitiStew.Proof.Xpt.HttpClient
import WapitiStew.Proof.Xpt.HttpBody
import WapitiStew.Impl.Xpt.Socket
import WapitiStew.Impl.Xpt.TcpClient
import WapitiStew.Impl.Xpt.UdpClient
import WapitiStew.Impl.Xpt.SerialPort
import WapitiStew.Impl.Xpt.SerialReceive
import WapitiStew.Spec.Xpt.Handles
import WapitiStew.Spec.Xpt.Streams
import WapitiStew.Proof.Xpt.Calls
import WapitiStew.Proof.Xpt.TcpClient
import WapitiStew.Proof.Xpt.UdpClient
import WapitiStew.Proof.Xpt.SerialPort
import WapitiStew.Proof.Xpt.Handles
import WapitiStew.Proof.Xpt.TcpLink
import WapitiStew.Proof.Xpt.Datagrams
import WapitiStew.Proof.Xpt.SerialReceive
import WapitiStew.Proof.Xpt.WaitLoops
import WapitiStew.Impl.Oui.RendererTypes
import WapitiStew.Impl.Oui.D3D12Fence
import WapitiStew.Impl.Oui.D3D12Resources
import WapitiStew.Impl.Oui.D3D12Surface
import WapitiStew.Impl.Oui.D3D12DisplayEnumeration
import WapitiStew.Impl.Oui.VulkanState
import WapitiStew.Impl.Oui.VulkanSubmission
import WapitiStew.Impl.Oui.VulkanSurface
import WapitiStew.Impl.Oui.VulkanRenderer
import WapitiStew.Spec.Oui.D3D12Fence
import WapitiStew.Spec.Oui.D3D12Resources
import WapitiStew.Spec.Oui.D3D12Surface
import WapitiStew.Spec.Oui.D3D12DisplayEnumeration
import WapitiStew.Spec.Oui.VulkanRenderer
import WapitiStew.Proof.Oui.D3D12Fence
import WapitiStew.Proof.Oui.D3D12Lifetimes
import WapitiStew.Proof.Oui.D3D12Recording
import WapitiStew.Proof.Oui.D3D12Resources
import WapitiStew.Proof.Oui.D3D12Surface
import WapitiStew.Proof.Oui.D3D12DisplayModes
import WapitiStew.Proof.Oui.D3D12DisplayEnumeration
import WapitiStew.Proof.Oui.VulkanMoves
import WapitiStew.Proof.Oui.VulkanAccounts
import WapitiStew.Proof.Oui.VulkanRecords
import WapitiStew.Proof.Oui.VulkanHistory
import WapitiStew.Proof.Oui.VulkanCalls
import WapitiStew.Proof.Oui.VulkanSubmission
import WapitiStew.Proof.Oui.VulkanTextures
import WapitiStew.Proof.Oui.VulkanSurfaces
import WapitiStew.Proof.Oui.VulkanTransitions
import WapitiStew.Proof.Oui.VulkanRendering
import WapitiStew.Proof.Oui.VulkanRuns
import WapitiStew.Proof.Oui.VulkanRenderer
import WapitiStew.Impl.Oui.ProjectionMeshAdapter
import WapitiStew.Spec.Oui.ProjectionMeshAdapter
import WapitiStew.Proof.Oui.ProjectionMeshAdapter
import WapitiStew.Impl.Oui.RendererFrameOps
import WapitiStew.Spec.Oui.RendererFrameOps
import WapitiStew.Proof.Oui.RendererFrameOps
import WapitiStew.Impl.Oui.ProjectionExecution
import WapitiStew.Spec.Oui.ProjectionExecution
import WapitiStew.Proof.Oui.ProjectionExecution
import WapitiStew.Impl.Iui.LinuxKeyboardDevices
import WapitiStew.Spec.Iui.LinuxKeyboardDevices
import WapitiStew.Proof.Iui.LinuxKeyboardDevices
import WapitiStew.Impl.Oui.Renderer
import WapitiStew.Spec.Oui.Renderer
import WapitiStew.Proof.Oui.Renderer
import WapitiStew.Impl.Iui.Keyboard
import WapitiStew.Spec.Iui.Keyboard
import WapitiStew.Proof.Iui.Keyboard
