import CollegeCanteens.Library.Run
import CollegeCanteens.Library.Provenance
import CollegeCanteens.Library.Latest
import CollegeCanteens.Library.Leads
import CollegeCanteens.Library.Register
import CollegeCanteens.Library.OrderedMap
import CollegeCanteens.Library.Basket
import CollegeCanteens.Library.FixedWidth
import CollegeCanteens.Firestore
import CollegeCanteens.Menu.Cart
import CollegeCanteens.Orders
import CollegeCanteens.Menu.Screen
import CollegeCanteens.Menu.Conservation
import CollegeCanteens.Menu.Subtotal
import CollegeCanteens.Menu.Availability
import CollegeCanteens.Menu.Entries
import CollegeCanteens.Menu.Guard
import CollegeCanteens.Menu.Refinement
import CollegeCanteens.Menu.Failure
import CollegeCanteens.Menu.Display
import CollegeCanteens.Menu.Payment
import CollegeCanteens.ChangeMenu
import CollegeCanteens.ChangeMenu.Rendered
import CollegeCanteens.ChangeMenu.Items
import CollegeCanteens.Canteen.System
import CollegeCanteens.Canteen.Authorisation
import CollegeCanteens.Canteen.Lifecycle
import CollegeCanteens.Canteen.Accounts
import CollegeCanteens.Canteen.Wallet
import CollegeCanteens.App.Session
import CollegeCanteens.App.Spinner
import CollegeCanteens.App.Disposed
import CollegeCanteens.App.Behind
import CollegeCanteens.App.Homes
import CollegeCanteens.App.Users
import CollegeCanteens.App.Numbers
import CollegeCanteens.App.Forms
import CollegeCanteens.Deployment.System
import CollegeCanteens.Deployment.Components
import CollegeCanteens.Deployment.Projection
import CollegeCanteens.Deployment.Origins
import CollegeCanteens.Deployment.Wallet
import CollegeCanteens.Deployment.Orders
import CollegeCanteens.Deployment.Menus
import CollegeCanteens.Deployment.Admins
import CollegeCanteens.Deployment.Progress
import CollegeCanteens.Deployment.SignIn
